import Locus.Location

/-!
# What a location picks out

The ends of a location count characters, and a slice is taken at byte offsets. Main statement: the
slice of a text is the characters from the one index to the other, and it exists exactly if the
indices are in order and inside the text; the offsets never fall inside a character.
-/

namespace Locus

namespace Utf8

theorem size_take_succ {text : List Char} {i : Nat} (h : i < text.length) :
    size (text.take (i + 1)) = size (text.take i) + text[i].utf8Size := by
  rw [List.take_succ_eq_append_getElem h, size_append, size_cons, size_nil, Nat.add_zero]

theorem eq_nil_of_size_eq_zero {cs : List Char} (h : size cs = 0) : cs = [] := by
  cases cs with
  | nil => rfl
  | cons c cs =>
    have hpos := c.utf8Size_pos
    rw [size_cons] at h
    omega

/-- The bytes of the first part of a text part it there. -/
theorem split?_size (cs ds : List Char) : split? (size cs) (cs ++ ds) = some (cs, ds) := by
  induction cs with
  | nil => simp [split?]
  | cons c cs ih =>
    have hpos := c.utf8Size_pos
    obtain ⟨n, hn⟩ : ∃ n, c.utf8Size + size cs = n + 1 :=
      ⟨c.utf8Size + size cs - 1, by omega⟩
    have hsub : n + 1 - c.utf8Size = size cs := by omega
    rw [size_cons, hn, List.cons_append, split?, if_pos (by omega), hsub, ih]
    rfl

theorem take_eq_append_drop_take (text : List Char) {i k : Nat} (hik : i ≤ k) :
    text.take k = text.take i ++ (text.take k).drop i := by
  have htake : (text.take k).take i = text.take i := by
    rw [List.take_take, Nat.min_eq_left hik]
  rw [← htake, List.take_append_drop]

/-- The part of a text between two indices, found through the bytes before each of them. -/
theorem between?_size_take {text : List Char} {i k : Nat} (hik : i ≤ k) :
    between? (size (text.take i)) (size (text.take k)) text = some ((text.take k).drop i) := by
  have hparts := take_eq_append_drop_take text hik
  have hsize : size (text.take k) = size (text.take i) + size ((text.take k).drop i) := by
    rw [← size_append, ← hparts]
  have htext : text = text.take i ++ ((text.take k).drop i ++ text.drop k) := by
    rw [← List.append_assoc, ← hparts, List.take_append_drop]
  have hfirst : split? (size (text.take i)) text
      = some (text.take i, (text.take k).drop i ++ text.drop k) := by
    have := split?_size (text.take i) ((text.take k).drop i ++ text.drop k)
    rwa [← htext] at this
  have hsecond : split? (size (text.take k) - size (text.take i))
      ((text.take k).drop i ++ text.drop k) = some ((text.take k).drop i, text.drop k) := by
    rw [hsize, Nat.add_sub_cancel_left, split?_size]
  rw [between?, if_pos (by omega), hfirst]
  simp [hsecond]

/-- The character at index `i` begins at the byte that the characters before it reach to. -/
theorem getElem?_offsets (n : Nat) (text : List Char) (i : Nat) :
    (offsets n text)[i]? = if i ≤ text.length then some (n + size (text.take i)) else none := by
  induction text generalizing n i with
  | nil => cases i <;> simp [offsets]
  | cons c cs ih =>
    cases i with
    | zero => simp [offsets]
    | succ i =>
      rw [offsets, List.getElem?_cons_succ, ih]
      simp [Nat.add_assoc]

/-- From the offset of the character at index `i` on, the offsets begin with what the characters
before it take. -/
theorem drop_offsets {text : List Char} {i : Nat} (h : i ≤ text.length) :
    (offsets 0 text).drop i = size (text.take i) :: (offsets 0 text).drop (i + 1) := by
  have hget : (offsets 0 text)[i]? = some (size (text.take i)) := by
    rw [getElem?_offsets, if_pos h, Nat.zero_add]
  obtain ⟨hlt, hval⟩ := List.getElem?_eq_some_iff.1 hget
  rw [List.drop_eq_getElem_cons hlt, hval]

theorem drop_offsets_of_lt {text : List Char} {i : Nat} (h : text.length < i) :
    (offsets 0 text).drop i = [] := by
  have hget : (offsets 0 text)[i]? = none := by
    rw [getElem?_offsets, if_neg (by omega)]
  exact List.drop_eq_nil_of_le (List.getElem?_eq_none_iff.1 hget)

end Utf8

namespace Location

/-- The byte offsets of both ends are the lengths of what stands before them. -/
theorem byteRange?_eq (l : Location) (text : List Char) :
    l.byteRange? text =
      if l.start.index ≤ l.stop.index ∧ l.stop.index ≤ text.length then
        some (Utf8.size (text.take l.start.index), Utf8.size (text.take l.stop.index))
      else none := by
  rw [byteRange?]
  rcases Nat.lt_or_ge l.stop.index l.start.index with hlt | hle
  · rw [if_pos hlt, if_neg (by omega)]
  rw [if_neg (by omega)]
  rcases Nat.lt_or_ge text.length l.start.index with hshort | hstart
  · rw [Utf8.drop_offsets_of_lt hshort, if_neg (by omega)]
  rw [Utf8.drop_offsets hstart]
  by_cases heq : l.stop.index = l.start.index
  · rw [if_pos ⟨hle, by omega⟩, heq]
    exact if_pos rfl
  · -- the end is looked for among the offsets behind that of the start
    have hlater : ((Utf8.offsets 0 text).drop (l.start.index + 1))[
        l.stop.index - l.start.index - 1]? = (Utf8.offsets 0 text)[l.stop.index]? := by
      have hsum : l.start.index + 1 + (l.stop.index - l.start.index - 1) = l.stop.index := by omega
      rw [List.getElem?_drop, hsum]
    dsimp only
    rw [if_neg heq, hlater, Utf8.getElem?_offsets, Nat.zero_add]
    by_cases hstop : l.stop.index ≤ text.length
    · rw [if_pos hstop, if_pos ⟨hle, hstop⟩, Option.map_some]
    · rw [if_neg hstop, if_neg (fun h => hstop h.2), Option.map_none]

/-- A location picks out the characters from its start index to its end index. -/
theorem slice?_eq (l : Location) (text : List Char) :
    l.slice? text =
      if l.start.index ≤ l.stop.index ∧ l.stop.index ≤ text.length then
        some ((text.take l.stop.index).drop l.start.index)
      else none := by
  rw [slice?, byteRange?_eq]
  split
  · next h => rw [Option.bind_some, Utf8.between?_size_take h.1]
  · rfl

end Location

end Locus
