import Mathlib.Order.Bounds.Basic
import Locus.Proofs.ByteRange
import Locus.Proofs.Cursor

/-!
# Moves over bytes

A cursor can be told to pass a number of bytes, and it goes on by characters. Main statement: it
stops at the first place between two characters at which that many bytes are passed, or at the end
of the text; and two moves over bytes add up if the first of them needs no rounding.
-/

namespace Locus

namespace Utf8

/-! ## Places between characters -/

theorem size_take_le (text : List Char) {i k : Nat} (hik : i ≤ k) :
    size (text.take i) ≤ size (text.take k) := by
  rw [take_eq_append_drop_take text hik, size_append]
  exact Nat.le_add_right _ _

theorem size_take_lt {text : List Char} {i k : Nat} (hik : i < k) (hk : k ≤ text.length) :
    size (text.take i) < size (text.take k) := by
  have hle := size_take_le text (Nat.succ_le_of_lt hik)
  have hpos := text[i].utf8Size_pos
  rw [Nat.succ_eq_add_one, size_take_succ (Nat.lt_of_lt_of_le hik hk)] at hle
  omega

theorem size_toList (input : String) : size input.toList = input.utf8ByteSize := by
  rw [← utf8ByteSize_ofList, String.ofList_toList]

/-- A byte of a text is between two characters, or at an end, if some first characters take up all
bytes before it. -/
theorem isValid_iff_exists_take {input : String} {b : Nat} :
    (⟨b⟩ : String.Pos.Raw).IsValid input ↔
      ∃ k ≤ input.toList.length, b = size (input.toList.take k) := by
  rw [String.Pos.Raw.isValid_iff_exists_take_toList]
  constructor
  · rintro ⟨k, hk⟩
    refine ⟨min k input.toList.length, Nat.min_le_right _ _, ?_⟩
    have hb : b = (String.ofList (input.toList.take k)).utf8ByteSize := hk
    rw [hb, utf8ByteSize_ofList, ← List.take_eq_take_min]
  · rintro ⟨k, -, rfl⟩
    exact ⟨k, by rw [← utf8ByteSize_ofList]⟩

end Utf8

namespace Cursor

/-! ## Going on until a byte is reached -/

theorem skipUntil_of_nil {target : Nat} {s : Cursor} (h : s.rest = []) : skipUntil target s = s := by
  rw [skipUntil, if_neg fun hgoes => hgoes.2 h]

theorem skipUntil_of_lt {target : Nat} {s : Cursor} (h : s.offset < target) (hrest : s.rest ≠ []) :
    skipUntil target s = skipUntil target s.next := by
  rw [skipUntil, if_pos ⟨h, hrest⟩]

/-- On the way to a byte a cursor may stop at any byte before it. -/
theorem skipUntil_skipUntil {target target' : Nat} (h : target ≤ target') (s : Cursor) :
    skipUntil target' (skipUntil target s) = skipUntil target' s := by
  fun_induction skipUntil target s with
  | case1 s hgoes ih => rw [ih, skipUntil_of_lt (Nat.lt_of_lt_of_le hgoes.1 h) hgoes.2]
  | case2 s _ => rfl

/-- From index `i` on, `k` is the first one at which `target` bytes are passed or the text ends. -/
structure StopsAt (text : List Char) (i target k : Nat) : Prop where
  start_le : i ≤ k
  le_length : k ≤ text.length
  passed : target ≤ Utf8.size (text.take k) ∨ k = text.length
  lt_target : ∀ j, i ≤ j → j < k → Utf8.size (text.take j) < target

/-- There the loop stops, by induction on its rounds. -/
theorem exists_skipUntil_atIndex {text : List Char} {i : Nat} (label : Option String) (target : Nat)
    (hi : i ≤ text.length) :
    ∃ k, StopsAt text i target k ∧
      skipUntil target (atIndex text label i) = atIndex text label k := by
  generalize hs : atIndex text label i = s
  fun_induction skipUntil target s generalizing i with
  | case1 s hgoes ih =>
    subst hs
    have hlt : i < text.length := by
      have hrest : text.drop i ≠ [] := hgoes.2
      rw [Ne, List.drop_eq_nil_iff] at hrest
      omega
    obtain ⟨k, hk, heq⟩ := ih hlt (next_atIndex label hlt).symm
    refine ⟨k, ⟨Nat.le_of_succ_le hk.start_le, hk.le_length, hk.passed, fun j hj hjk => ?_⟩, heq⟩
    rcases Nat.eq_or_lt_of_le hj with rfl | hj
    · exact hgoes.1
    · exact hk.lt_target j hj hjk
  | case2 s hstays =>
    subst hs
    refine ⟨i, ⟨Nat.le_refl i, hi, ?_, fun j hj hji => absurd hj (Nat.not_le.2 hji)⟩, rfl⟩
    rcases Nat.lt_or_ge (Utf8.size (text.take i)) target with hlt | hge
    · have hnil : text.drop i = [] := by
        by_contra hrest
        exact hstays ⟨hlt, hrest⟩
      exact .inr (Nat.le_antisymm hi (List.drop_eq_nil_iff.1 hnil))
    · exact .inl hge

/-- Nothing before the place where the loop stops would have done. -/
theorem StopsAt.isLeast {input : String} {i n k : Nat}
    (h : StopsAt input.toList i (Utf8.size (input.toList.take i) + n) k) :
    IsLeast {b | (⟨b⟩ : String.Pos.Raw).IsValid input ∧
        min (Utf8.size (input.toList.take i) + n) input.utf8ByteSize ≤ b}
      (Utf8.size (input.toList.take k)) := by
  have hall : Utf8.size (input.toList.take input.toList.length) = input.utf8ByteSize := by
    rw [List.take_length, Utf8.size_toList]
  constructor
  · refine ⟨Utf8.isValid_iff_exists_take.2 ⟨k, h.le_length, rfl⟩, ?_⟩
    rcases h.passed with hpassed | rfl
    · exact Nat.le_trans (Nat.min_le_left _ _) hpassed
    · rw [hall]
      exact Nat.min_le_right _ _
  · rintro b ⟨hvalid, hb⟩
    obtain ⟨j, hj, rfl⟩ := Utf8.isValid_iff_exists_take.1 hvalid
    by_contra hlt
    have hjk : j < k := Nat.lt_of_not_le fun hkj => hlt (Utf8.size_take_le _ hkj)
    -- a place before `k` is before the end, and before the target
    have hend : Utf8.size (input.toList.take j) < input.utf8ByteSize := by
      rw [← hall]
      exact Utf8.size_take_lt (Nat.lt_of_lt_of_le hjk h.le_length) (Nat.le_refl _)
    have htarget : Utf8.size (input.toList.take j) < Utf8.size (input.toList.take i) + n := by
      rcases Nat.lt_or_ge j i with hji | hij
      · exact Nat.lt_add_right n (Utf8.size_take_lt hji (Nat.le_trans h.start_le h.le_length))
      · exact h.lt_target j hij hjk
    omega

/-! ## Moves over bytes of a text -/

section Text

variable {input : String} {label : Option String} {i : Nat} {s : Cursor}
  (hs : s = atIndex input.toList label i) (hi : i ≤ input.toList.length)
include hs hi

theorem exists_skipBytes_eq_atIndex (n : Nat) :
    ∃ k, StopsAt input.toList i (s.offset + n) k ∧ s.skipBytes n = atIndex input.toList label k := by
  subst hs
  exact exists_skipUntil_atIndex label _ hi

theorem isLeast_offset_skipBytes (n : Nat) :
    IsLeast {b | (⟨b⟩ : String.Pos.Raw).IsValid input ∧ min (s.offset + n) input.utf8ByteSize ≤ b}
      (s.skipBytes n).offset := by
  obtain ⟨k, hk, hmove⟩ := exists_skipBytes_eq_atIndex hs hi n
  subst hs
  rw [hmove]
  exact hk.isLeast

/-- A move over bytes is as many steps as there are characters in the bytes passed. -/
theorem exists_skipBytes_eq_skip (n : Nat) :
    ∃ passed : List Char,
      (String.ofList passed).toByteArray =
        input.toByteArray.extract s.offset (s.skipBytes n).offset ∧
      s.skipBytes n = skip passed.length s := by
  obtain ⟨k, hk, hmove⟩ := exists_skipBytes_eq_atIndex hs hi n
  have hlength : ((input.toList.take k).drop i).length = k - i := by
    rw [List.length_drop, List.length_take, Nat.min_eq_left hk.le_length]
  subst hs
  refine ⟨(input.toList.take k).drop i, ?_, ?_⟩
  · rw [← Utf8.extract_utf8ByteSize_take input hk.start_le, Utf8.utf8ByteSize_ofList,
      Utf8.utf8ByteSize_ofList, hmove]
    rfl
  · rw [hmove, hlength, skip_sub_atIndex label hk.start_le hk.le_length]

theorem rest_eq_nil_of_le_offset (h : input.utf8ByteSize ≤ s.offset) : s.rest = [] := by
  subst hs
  rw [← Utf8.size_toList] at h
  obtain rfl := (size_le_offset_atIndex_iff hi).1 h
  exact List.drop_length

theorem rest_skipUntil_of_le {target : Nat} (h : input.utf8ByteSize ≤ target) :
    (skipUntil target s).rest = [] := by
  subst hs
  obtain ⟨k, hk, heq⟩ := exists_skipUntil_atIndex label target hi
  rw [heq]
  rcases hk.passed with hpassed | rfl
  · exact rest_eq_nil_of_le_offset rfl hk.le_length (Nat.le_trans h hpassed)
  · exact List.drop_length

theorem offset_skipBytes_of_isValid {n : Nat}
    (h : (⟨s.offset + n⟩ : String.Pos.Raw).IsValid input) :
    (s.skipBytes n).offset = s.offset + n := by
  have hle : s.offset + n ≤ input.utf8ByteSize := String.Pos.Raw.IsValid.le_rawEndPos h
  refine (isLeast_offset_skipBytes hs hi n).unique ⟨⟨h, Nat.min_le_left _ _⟩, ?_⟩
  rintro b ⟨-, hb⟩
  rwa [Nat.min_eq_left hle] at hb

/-- Two moves are one if the first of them needs no rounding, or if it goes past the end. -/
theorem skipBytes_skipBytes {a : Nat} (b : Nat)
    (h : (⟨s.offset + a⟩ : String.Pos.Raw).IsValid input ∨ input.utf8ByteSize < s.offset + a) :
    (s.skipBytes a).skipBytes b = s.skipBytes (a + b) := by
  have hfurther : skipUntil (s.offset + (a + b)) (s.skipBytes a) = s.skipBytes (a + b) :=
    skipUntil_skipUntil (Nat.add_le_add_left (Nat.le_add_right a b) _) s
  rcases h with hvalid | hpast
  · rw [← hfurther, ← Nat.add_assoc, ← offset_skipBytes_of_isValid hs hi hvalid]
    rfl
  · -- at the end of the text both moves stay
    have hnil : (s.skipBytes a).rest = [] := rest_skipUntil_of_le hs hi (Nat.le_of_lt hpast)
    rw [← hfurther, skipBytes, skipUntil_of_nil hnil, skipUntil_of_nil hnil]

/-- A target past the end of the text is as good as the end. -/
theorem skipUntil_min_eq_skipBytes (n : Nat) :
    skipUntil (min (s.offset + n) input.utf8ByteSize) s = s.skipBytes n := by
  rcases Nat.le_total (s.offset + n) input.utf8ByteSize with hle | hle
  · rw [Nat.min_eq_left hle]
    rfl
  · have hnil := rest_skipUntil_of_le hs hi (Nat.le_refl input.utf8ByteSize)
    rw [Nat.min_eq_right hle, skipBytes, ← skipUntil_skipUntil hle, skipUntil_of_nil hnil]

end Text

end Cursor

/-! ## Numbers of 64 bits -/

/-- The sum of two numbers of 64 bits; none if it would take more bits. -/
def Word.add? (a b : UInt64) : Option UInt64 :=
  if a.toNat + b.toNat < UInt64.size then some (a + b) else none

theorem Word.add?_of_lt {a b : UInt64} (h : a.toNat + b.toNat < UInt64.size) :
    ∃ d, add? a b = some d ∧ d.toNat = a.toNat + b.toNat :=
  ⟨a + b, if_pos h, by rw [UInt64.toNat_add, Nat.mod_eq_of_lt h]⟩

namespace Cursor

/-- The move over `n` bytes with a target of 64 bits that is never past the end of the text;
nothing at all if the target would take more bits. -/
def wordSkip? (n : UInt64) (s : Cursor) : Option Cursor := do
  let target ← Word.add? (UInt64.ofNat s.offset) n
  some (skipUntil (min target.toNat (Utf8.size s.input)) s)

theorem wordSkip?_eq {input : String} {label : Option String} {i : Nat} {s : Cursor}
    (hs : s = atIndex input.toList label i) (hi : i ≤ input.toList.length) {n : UInt64}
    (h : s.offset + n.toNat < UInt64.size) : s.wordSkip? n = some (s.skipBytes n.toNat) := by
  have hoffset : (UInt64.ofNat s.offset).toNat = s.offset :=
    UInt64.toNat_ofNat_of_lt' (by omega)
  obtain ⟨target, htarget, hvalue⟩ :=
    Word.add?_of_lt (a := UInt64.ofNat s.offset) (b := n) (by rwa [hoffset])
  have hsize : Utf8.size s.input = input.utf8ByteSize := by
    rw [hs]
    exact Utf8.size_toList input
  rw [wordSkip?, htarget, Option.bind_eq_bind, Option.bind_some, hvalue, hoffset, hsize,
    skipUntil_min_eq_skipBytes hs hi]

/-- **Moves over bytes round up, stop at the end and add up.** Of any cursor that comes of one at the
start of a text: a move over `n` bytes takes it to the first byte between two characters at which
those bytes, or all that there are, have been passed; that is as many steps as there are characters
in the bytes passed; it is followed by a further move as if both had been one, if the first was to
go to a byte between two characters or past the end; and counting in numbers of 64 bits, with a
target that is never past the end, is the same as long as the target is such a number. -/
theorem reached_skipBytes (input : String) (label : Option String) (uses : List Use) :
    ∀ s ∈ reached input label uses,
      (∀ n, IsLeast
        {b | (⟨b⟩ : String.Pos.Raw).IsValid input ∧ min (s.offset + n) input.utf8ByteSize ≤ b}
        (s.skipBytes n).offset) ∧
      (∀ n, ∃ passed : List Char,
        (String.ofList passed).toByteArray =
          input.toByteArray.extract s.offset (s.skipBytes n).offset ∧
        s.skipBytes n = skip passed.length s) ∧
      (∀ a b,
        (⟨s.offset + a⟩ : String.Pos.Raw).IsValid input ∨ input.utf8ByteSize < s.offset + a →
        (s.skipBytes a).skipBytes b = s.skipBytes (a + b)) ∧
      ∀ n : UInt64, s.offset + n.toNat < UInt64.size →
        s.wordSkip? n = some (s.skipBytes n.toNat) := by
  intro s hmem
  obtain ⟨i, hi, hs⟩ := exists_eq_atIndex_of_mem_reached hmem
  exact ⟨isLeast_offset_skipBytes hs hi, exists_skipBytes_eq_skip hs hi,
    fun a b => skipBytes_skipBytes hs hi b, fun n => wordSkip?_eq hs hi⟩

/-- A cursor behind the first character of a text whose other characters take two, three and one
bytes: four bytes further on is inside the third character. -/
theorem reached_skipBytes_inside_character :
    let input := String.ofList ['a', 'é', '€', 'b']
    let s : Cursor := ⟨['a', 'é', '€', 'b'], ['é', '€', 'b'], ⟨1, 1, 1⟩, 1, none⟩
    let t : Cursor := ⟨['a', 'é', '€', 'b'], ['b'], ⟨3, 1, 3⟩, 6, none⟩
    s ∈ reached input none [.move 0 .next] ∧ s.skipBytes 4 = t ∧
      IsLeast {b | (⟨b⟩ : String.Pos.Raw).IsValid input ∧ 5 ≤ b} 6 ∧
      (s.skipBytes 2).skipBytes 2 = t ∧ s.wordSkip? 4 = some t := by
  intro input s t
  have hmem : s ∈ reached input none [.move 0 .next] := by
    simp [reached, Use.apply, Move.apply, s, input, ofString, ofList, next, Position.next,
      Position.start, breaksLine, isLineTerminator, Char.utf8Size]
  have ht : s.skipBytes 4 = t := by
    simp [s, t, skipBytes, skipUntil, next, Position.next, breaksLine, isLineTerminator,
      Char.utf8Size]
  have hsize : input.utf8ByteSize = 7 := Utf8.utf8ByteSize_ofList _
  have hvalid : (⟨3⟩ : String.Pos.Raw).IsValid input :=
    Utf8.isValid_iff_exists_take.2 ⟨2, by simp [input], by simp [input, Char.utf8Size]⟩
  obtain ⟨hleast, -, hadd, hword⟩ := reached_skipBytes input none [.move 0 .next] s hmem
  have hleast := hleast 4
  rw [ht, hsize] at hleast
  exact ⟨hmem, ht, hleast, (hadd 2 2 (.inl hvalid)).trans ht, (hword 4 (by decide)).trans (ht ▸ rfl)⟩

end Cursor

end Locus
