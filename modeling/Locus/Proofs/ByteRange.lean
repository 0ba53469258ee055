import Locus.Proofs.Slice

/-!
# Byte ranges of any text

A location can be held against any text, also one that it was not made for, and its ends can be any
two numbers of 64 bits. Main statement: the byte range exists exactly if the ends are in order and
inside the text; it is the range of the characters between them in the UTF-8 form of the text; no
number on the way to it falls below zero; and the slices of two ranges that meet are the slice of
both together.
-/

namespace Locus

namespace Utf8

/-! ## Bytes of strings -/

theorem utf8ByteSize_ofList (cs : List Char) : (String.ofList cs).utf8ByteSize = size cs := by
  induction cs with
  | nil => rfl
  | cons c cs ih =>
    rw [size_cons, ← ih, ← List.singleton_append, String.ofList_append, String.utf8ByteSize_append,
      ← String.singleton_eq_ofList, String.utf8ByteSize_singleton]

/-- The bytes of the first characters of a text end between two characters. -/
theorem isValid_utf8ByteSize_take (input : String) (i : Nat) :
    (⟨(String.ofList (input.toList.take i)).utf8ByteSize⟩ : String.Pos.Raw).IsValid input :=
  String.Pos.Raw.isValid_iff_exists_take_toList.2 ⟨i, rfl⟩

/-- The bytes between those of the first `i` and those of the first `k` characters are the bytes of
the characters from `i` to `k`. -/
theorem extract_utf8ByteSize_take (input : String) {i k : Nat} (hik : i ≤ k) :
    input.toByteArray.extract (String.ofList (input.toList.take i)).utf8ByteSize
        (String.ofList (input.toList.take k)).utf8ByteSize =
      (String.ofList ((input.toList.take k).drop i)).toByteArray := by
  have hparts := take_eq_append_drop_take input.toList hik
  have hbytes : input.toByteArray =
      (String.ofList (input.toList.take i)).toByteArray ++
        ((String.ofList ((input.toList.take k).drop i)).toByteArray ++
          (String.ofList (input.toList.drop k)).toByteArray) := by
    rw [← ByteArray.append_assoc, ← String.toByteArray_append, ← String.toByteArray_append,
      ← String.ofList_append, ← String.ofList_append, ← hparts, List.take_append_drop,
      String.ofList_toList]
  have hlast : (String.ofList (input.toList.take k)).utf8ByteSize =
      (String.ofList (input.toList.take i)).utf8ByteSize +
        (String.ofList ((input.toList.take k).drop i)).utf8ByteSize := by
    rw [← String.utf8ByteSize_append, ← String.ofList_append, ← hparts]
  rw [hbytes, hlast]
  exact (ByteArray.extract_append_size_add' (i := 0) rfl).trans
    (ByteArray.extract_append_eq_left rfl)

end Utf8

/-! ## Numbers of 64 bits -/

/-- The difference of two numbers of 64 bits; none if it would be below zero. -/
def Word.sub? (a b : UInt64) : Option UInt64 := if b ≤ a then some (a - b) else none

theorem Word.sub?_of_le {a b : UInt64} (h : b.toNat ≤ a.toNat) :
    ∃ d, sub? a b = some d ∧ d.toNat = a.toNat - b.toNat := by
  have hle : b ≤ a := UInt64.le_iff_toNat_le.2 h
  exact ⟨a - b, if_pos hle, UInt64.toNat_sub_of_le a b hle⟩

namespace Location

/-- The byte offsets between two indices of 64 bits; nothing at all if a difference that it takes
would be below zero. -/
def wordRange? (start stop : UInt64) (text : List Char) : Option (Option (Nat × Nat)) :=
  if stop < start then some none
  else
    match (Utf8.offsets 0 text).drop start.toNat with
    | [] => some none
    | first :: later =>
      if stop = start then some (some (first, first))
      else do
        let span ← Word.sub? stop start
        let ahead ← Word.sub? span 1
        some (later[ahead.toNat]?.map fun last => (first, last))

/-- Differences are taken only where they exist: of ends that are in order, and of one from ends
that are not the same. -/
theorem wordRange?_eq {l : Location} {start stop : UInt64}
    (h : l.range = (start.toNat, stop.toNat)) (text : List Char) :
    wordRange? start stop text = some (l.byteRange? text) := by
  obtain ⟨hstart, hstop⟩ : l.start.index = start.toNat ∧ l.stop.index = stop.toNat :=
    Prod.mk.inj h
  rw [wordRange?, byteRange?, hstart, hstop]
  by_cases hlt : stop.toNat < start.toNat
  · rw [if_pos hlt, if_pos (UInt64.lt_iff_toNat_lt.2 hlt)]
  rw [if_neg hlt, if_neg (mt UInt64.lt_iff_toNat_lt.1 hlt)]
  rcases (Utf8.offsets 0 text).drop start.toNat with _ | ⟨first, later⟩
  · rfl
  · by_cases heq : stop = start
    · simp [heq]
    · have hne : stop.toNat ≠ start.toNat := mt UInt64.toNat_inj.1 heq
      obtain ⟨span, hspan, hspan'⟩ := Word.sub?_of_le (Nat.le_of_not_lt hlt)
      have hone : (1 : UInt64).toNat ≤ span.toNat := by
        rw [UInt64.toNat_one, hspan']
        omega
      obtain ⟨ahead, hahead, hahead'⟩ := Word.sub?_of_le hone
      rw [hspan', UInt64.toNat_one] at hahead'
      simp [heq, hne, hspan, hahead, hahead']

/-! ## Ranges and slices -/

theorem byteRange?_eq_none_iff (l : Location) (text : List Char) :
    l.byteRange? text = none ↔ l.range.2 < l.range.1 ∨ text.length < l.range.2 := by
  rw [byteRange?_eq, range]
  split
  · next hin => exact iff_of_false (Option.some_ne_none _) (by omega)
  · next hout => exact iff_of_true rfl (by omega)

theorem slice?_eq_none_iff (l : Location) (text : List Char) :
    l.slice? text = none ↔ l.range.2 < l.range.1 ∨ text.length < l.range.2 := by
  rw [slice?_eq, range]
  split
  · next hin => exact iff_of_false (Option.some_ne_none _) (by omega)
  · next hout => exact iff_of_true rfl (by omega)

theorem byteRange?_of_range {l : Location} {text : List Char} {s e : Nat} (h : l.range = (s, e))
    (hse : s ≤ e) (he : e ≤ text.length) :
    l.byteRange? text =
      some ((String.ofList (text.take s)).utf8ByteSize,
        (String.ofList (text.take e)).utf8ByteSize) := by
  obtain ⟨rfl, rfl⟩ := Prod.mk.inj h
  rw [byteRange?_eq, if_pos ⟨hse, he⟩, Utf8.utf8ByteSize_ofList, Utf8.utf8ByteSize_ofList]

theorem slice?_of_range {l : Location} {text : List Char} {s e : Nat} (h : l.range = (s, e))
    (hse : s ≤ e) (he : e ≤ text.length) : l.slice? text = some ((text.take e).drop s) := by
  obtain ⟨rfl, rfl⟩ := Prod.mk.inj h
  rw [slice?_eq, if_pos ⟨hse, he⟩]

/-- A stretch of a text is parted at every place inside it. -/
theorem drop_take_append {text : List Char} {s m e : Nat} (hsm : s ≤ m) (hme : m ≤ e)
    (he : e ≤ text.length) :
    (text.take m).drop s ++ (text.take e).drop m = (text.take e).drop s := by
  have hlen : s ≤ (text.take m).length := by
    rw [List.length_take]
    omega
  rw [← List.drop_append_of_le_length hlen, ← Utf8.take_eq_append_drop_take text hme]

/-- **Byte ranges and slices are exact.** A location has no byte range in a text exactly if its end
comes before its start or lies outside the text, and then it has no slice. Otherwise the range goes
from the bytes of the characters before the start to those of the characters before the end, both
of which end between two characters, and the slice is the characters from the one to the other; its
bytes are those of the text in that range. The indices can be any numbers of 64 bits: no difference
that is taken is below zero. And where a location is parted, the slices of its parts together are
its slice. -/
theorem byteRange?_exact (l : Location) (input : String) :
    let text := input.toList
    let s := l.range.1
    let e := l.range.2
    let bytes (n : Nat) := (String.ofList (text.take n)).utf8ByteSize
    (l.byteRange? text = none ↔ e < s ∨ text.length < e) ∧
      (l.slice? text = none ↔ e < s ∨ text.length < e) ∧
      (s ≤ e → e ≤ text.length →
        l.byteRange? text = some (bytes s, bytes e) ∧
        (⟨bytes s⟩ : String.Pos.Raw).IsValid input ∧
        (⟨bytes e⟩ : String.Pos.Raw).IsValid input ∧
        l.slice? text = some ((text.take e).drop s) ∧
        (String.ofList ((text.take e).drop s)).toByteArray =
          input.toByteArray.extract (bytes s) (bytes e)) ∧
      (∀ start stop : UInt64, l.range = (start.toNat, stop.toNat) →
        wordRange? start stop text = some (l.byteRange? text)) ∧
      ∀ m, s ≤ m → m ≤ e → e ≤ text.length →
        ∀ first last : Location, first.range = (s, m) → last.range = (m, e) →
          ∃ u v, first.slice? text = some u ∧ last.slice? text = some v ∧
            l.slice? text = some (u ++ v) := by
  intro text s e bytes
  refine ⟨byteRange?_eq_none_iff l text, slice?_eq_none_iff l text, fun hse he => ?_,
    fun start stop h => wordRange?_eq h text, fun m hsm hme he first last hfirst hlast => ?_⟩
  · exact ⟨byteRange?_of_range rfl hse he, Utf8.isValid_utf8ByteSize_take input s,
      Utf8.isValid_utf8ByteSize_take input e, slice?_of_range rfl hse he,
      (Utf8.extract_utf8ByteSize_take input hse).symm⟩
  · refine ⟨_, _, slice?_of_range hfirst hsm (Nat.le_trans hme he),
      slice?_of_range hlast hme he, ?_⟩
    rw [drop_take_append hsm hme he]
    exact slice?_of_range rfl (Nat.le_trans hsm hme) he

/-- A text in which three of five characters take more than one byte, a location whose lines and
columns are not those of the text, and the two parts of it. -/
theorem byteRange?_exact_wide_characters :
    let text := ['é', '/', '€', '𝄞', '.']
    let input := String.ofList text
    let l : Location := ⟨none, ⟨1, 7, 0⟩, ⟨4, 1, 9⟩⟩
    let first : Location := ⟨none, ⟨1, 1, 1⟩, ⟨2, 1, 2⟩⟩
    let last : Location := ⟨none, ⟨2, 1, 2⟩, ⟨4, 1, 4⟩⟩
    l.byteRange? text = some (2, 10) ∧ (⟨10⟩ : String.Pos.Raw).IsValid input ∧
      l.slice? text = some ['/', '€', '𝄞'] ∧
      (String.ofList ['/', '€', '𝄞']).toByteArray = input.toByteArray.extract 2 10 ∧
      wordRange? 1 4 text = some (l.byteRange? text) ∧
      ∃ u v, first.slice? text = some u ∧ last.slice? text = some v ∧
        l.slice? text = some (u ++ v) := by
  intro text input l first last
  obtain ⟨-, -, hin, hwords, hparts⟩ := byteRange?_exact l input
  have htext : input.toList = text := String.toList_ofList
  have hstart : (String.ofList (text.take 1)).utf8ByteSize = 2 := Utf8.utf8ByteSize_ofList _
  have hstop : (String.ofList (text.take 4)).utf8ByteSize = 10 := Utf8.utf8ByteSize_ofList _
  rw [htext] at hin hwords hparts
  obtain ⟨hrange, -, hvalid, hslice, hbytes⟩ := hin (by decide) (by decide)
  have hl : l.range = (1, 4) := rfl
  simp only [hl, hstart, hstop] at hrange hvalid hbytes
  exact ⟨hrange, hvalid, hslice, hbytes, hwords 1 4 rfl,
    hparts 2 (by decide) (by decide) (by decide) first last rfl rfl⟩

end Location

end Locus
