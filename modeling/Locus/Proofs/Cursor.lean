import Locus.Cursor
import Locus.Proofs.Slice

/-!
# Where a cursor is

A cursor counts characters, bytes, lines and columns as it goes, and it never looks back. The
reference here looks at the whole text instead: the lines up to an index are the breaks before it,
and the column is the distance from the last of them. Main statement: however a cursor has been
moved, all it knows is a function of the text and of the number of characters it has passed.
-/

namespace Locus

/-! ## Breaks -/

/-- Whether a line of the text ends with the character at index `j`: a line feed, a carriage return
or a separator, but not a carriage return that a line feed follows. -/
def isBreak (text : List Char) (j : Nat) : Bool :=
  match text[j]? with
  | some c =>
    c ∈ ['\n', '\r', '\u2028', '\u2029'] && !(c = '\r' && text[j + 1]? = some '\n')
  | none => false

/-- The indices before `i` at which a line of the text ends, in order. -/
def breaks (text : List Char) (i : Nat) : List Nat := (List.range i).filter (isBreak text)

theorem mem_breaks {text : List Char} {i j : Nat} :
    j ∈ breaks text i ↔ j < i ∧ isBreak text j = true := by
  rw [breaks, List.mem_filter, List.mem_range]

theorem breaks_succ_of_isBreak {text : List Char} {i : Nat} (h : isBreak text i = true) :
    breaks text (i + 1) = breaks text i ++ [i] := by
  rw [breaks, List.range_succ, List.filter_append, List.filter_cons_of_pos h]
  rfl

theorem breaks_succ_of_not_isBreak {text : List Char} {i : Nat} (h : isBreak text i = false) :
    breaks text (i + 1) = breaks text i := by
  rw [breaks, List.range_succ, List.filter_append,
    List.filter_cons_of_neg (by rw [h]; exact Bool.false_ne_true)]
  exact List.append_nil _

/-- The position of a text before the character at index `i`, counted from the breaks. -/
def Position.ofIndex (text : List Char) (i : Nat) : Position where
  index := i
  line := 1 + (breaks text i).length
  column :=
    match (breaks text i).max? with
    | some j => i - (1 + j)
    | none => i

/-- What breaks a line for a cursor that sees what is left is what breaks it in the text. -/
theorem breaksLine_drop {text : List Char} {i : Nat} (h : i < text.length) :
    breaksLine text[i] (text.drop (i + 1)) = isBreak text i := by
  have hget : text[i]? = some text[i] := List.getElem?_eq_getElem h
  rw [isBreak, hget, breaksLine, isLineTerminator, List.head?_drop]
  simp [Bool.or_assoc]

/-- After a break the column starts again; otherwise line and breaks stay as they are. -/
theorem Position.next_ofIndex {text : List Char} {i : Nat} (h : i < text.length) :
    (ofIndex text i).next text[i] (text.drop (i + 1)) = ofIndex text (i + 1) := by
  rw [Position.next, breaksLine_drop h]
  by_cases hbreak : isBreak text i = true
  · have hmax : (breaks text (i + 1)).max? = some i := by
      rw [List.max?_eq_some_iff]
      refine ⟨mem_breaks.2 ⟨Nat.lt_succ_self i, hbreak⟩, fun j hj => ?_⟩
      exact Nat.le_of_lt_succ (mem_breaks.1 hj).1
    rw [if_pos hbreak, ofIndex, ofIndex, hmax, breaks_succ_of_isBreak hbreak, List.length_append]
    simp [Nat.add_comm]
  · have hfalse : isBreak text i = false := by simpa using hbreak
    rw [if_neg hbreak, ofIndex, ofIndex, breaks_succ_of_not_isBreak hfalse]
    rcases hmax : (breaks text i).max? with _ | j
    · rfl
    · -- the last break is before `i`, so the column grows with the index
      have hj : j < i := (mem_breaks.1 (List.max?_eq_some_iff.1 hmax).1).1
      have hcolumn : i - (1 + j) + 1 = i + 1 - (1 + j) := by omega
      simp [hcolumn]

namespace Cursor

/-- The cursor of a text before the character at index `i`, read off the text. -/
def atIndex (text : List Char) (label : Option String) (i : Nat) : Cursor where
  input := text
  rest := text.drop i
  position := Position.ofIndex text i
  offset := Utf8.size (text.take i)
  label := label

/-- One step of a cursor is one step of the index. -/
theorem next_atIndex {text : List Char} {i : Nat} (label : Option String) (h : i < text.length) :
    (atIndex text label i).next = atIndex text label (i + 1) := by
  have hrest : (atIndex text label i).rest = text[i] :: text.drop (i + 1) :=
    List.drop_eq_getElem_cons h
  rw [next_of_cons hrest, atIndex, atIndex, Position.next_ofIndex h, Utf8.size_take_succ h]

theorem next_atIndex_length (text : List Char) (label : Option String) :
    (atIndex text label text.length).next = atIndex text label text.length :=
  next_of_nil List.drop_length

/-- The cursor is where its text says that it is. -/
def Sound (s : Cursor) : Prop :=
  s.position.index ≤ s.input.length ∧ s = atIndex s.input s.label s.position.index

theorem sound_atIndex {text : List Char} {i : Nat} (label : Option String) (h : i ≤ text.length) :
    (atIndex text label i).Sound := ⟨h, rfl⟩

theorem sound_ofString (input : String) (label : Option String) : (ofString input label).Sound :=
  ⟨Nat.zero_le _, rfl⟩

theorem Sound.rest_eq {s : Cursor} (h : s.Sound) : s.rest = s.input.drop s.position.index :=
  congrArg Cursor.rest h.2

theorem Sound.position_eq {s : Cursor} (h : s.Sound) :
    s.position = Position.ofIndex s.input s.position.index :=
  congrArg Cursor.position h.2

/-- `n` steps take a cursor `n` characters further, as far as the text goes. -/
theorem skip_atIndex {text : List Char} {i : Nat} (label : Option String) (n : Nat)
    (h : i ≤ text.length) :
    skip n (atIndex text label i) = atIndex text label (min (i + n) text.length) := by
  induction n generalizing i with
  | zero =>
    rw [skip, Nat.add_zero, Nat.min_eq_left h]
  | succ n ih =>
    rw [skip]
    rcases Nat.lt_or_ge i text.length with hlt | hge
    · have hmin : min (i + 1 + n) text.length = min (i + (n + 1)) text.length := by
        rw [Nat.add_assoc, Nat.add_comm 1 n]
      rw [next_atIndex label hlt, ih hlt, hmin]
    · -- at the end of the text the cursor stays
      obtain rfl : i = text.length := Nat.le_antisymm h hge
      have hmin : min (text.length + n) text.length = min (text.length + (n + 1)) text.length := by
        rw [Nat.min_eq_right (by omega), Nat.min_eq_right (by omega)]
      rw [next_atIndex_length, ih (Nat.le_refl _), hmin]

/-- The later of two places of a text is reached from the earlier one. -/
theorem skip_sub_atIndex {text : List Char} {i k : Nat} (label : Option String) (hik : i ≤ k)
    (hk : k ≤ text.length) : skip (k - i) (atIndex text label i) = atIndex text label k := by
  rw [skip_atIndex label _ (Nat.le_trans hik hk), Nat.add_sub_cancel' hik, Nat.min_eq_left hk]

/-- Going on until some byte is reached is going on for some number of characters. -/
theorem exists_skipUntil_eq_skip (target : Nat) (s : Cursor) :
    ∃ n, s.skipUntil target = Cursor.skip n s := by
  fun_induction skipUntil target s with
  | case1 s h ih =>
    obtain ⟨n, hn⟩ := ih
    exact ⟨n + 1, hn⟩
  | case2 s h => exact ⟨0, rfl⟩

theorem skip_skip (m n : Nat) (s : Cursor) :
    Cursor.skip n (Cursor.skip m s) = Cursor.skip (m + n) s := by
  induction m generalizing s with
  | zero => rw [Nat.zero_add, Cursor.skip]
  | succ m ih => rw [Cursor.skip, ih, Nat.add_right_comm, Cursor.skip]

/-! ## Cursors in use -/

/-- What can be asked of a cursor. -/
inductive Move where
  | next
  | take (n : Nat)
  | skipBytes (n : Nat)
  | peek
  | peekAt (n : Nat)
deriving DecidableEq

/-- The cursor afterwards. Looking ahead leaves it where it is. -/
def Move.apply : Move → Cursor → Cursor
  | .next, s => s.next
  | .take n, s => skip n s
  | .skipBytes n, s => s.skipBytes n
  | .peek, s => s
  | .peekAt _, s => s

/-- Whatever is asked of a cursor, it goes on for some number of characters. -/
theorem Move.exists_apply_eq_skip (m : Move) (s : Cursor) : ∃ n, m.apply s = skip n s := by
  cases m with
  | next => exact ⟨1, rfl⟩
  | take n => exact ⟨n, rfl⟩
  | skipBytes n => exact exists_skipUntil_eq_skip _ s
  | peek => exact ⟨0, rfl⟩
  | peekAt n => exact ⟨0, rfl⟩

/-- What can be done with several cursors: one of them is moved, or one of them is copied. -/
inductive Use where
  | move (k : Nat) (m : Move)
  | clone (k : Nat)
deriving DecidableEq

/-- The cursors afterwards, a copy behind all others. -/
def Use.apply : Use → List Cursor → List Cursor
  | .move k m, ss => ss.modify k m.apply
  | .clone k, ss => ss ++ ss[k]?.toList

/-- The cursors that come of a single one at the start of a text. -/
def reached (input : String) (label : Option String) (uses : List Use) : List Cursor :=
  uses.foldl (fun ss use => use.apply ss) [ofString input label]

/-- A cursor that is there after a use has come from one before it by going on. -/
theorem Use.exists_skip_of_mem_apply {use : Use} {ss : List Cursor} {s : Cursor}
    (h : s ∈ use.apply ss) : ∃ t ∈ ss, ∃ n, s = skip n t := by
  cases use with
  | move k m =>
    obtain ⟨j, hj⟩ := List.mem_iff_getElem?.1 h
    rw [Use.apply, List.getElem?_modify] at hj
    obtain ⟨t, ht, hs⟩ := Option.map_eq_some_iff.1 hj
    refine ⟨t, List.mem_iff_getElem?.2 ⟨j, ht⟩, ?_⟩
    by_cases hk : k = j
    · rw [if_pos hk] at hs
      obtain ⟨n, hn⟩ := m.exists_apply_eq_skip t
      exact ⟨n, by rw [← hs, hn]⟩
    · rw [if_neg hk] at hs
      exact ⟨0, hs.symm⟩
  | clone k =>
    rcases List.mem_append.1 h with h | h
    · exact ⟨s, h, 0, rfl⟩
    · exact ⟨s, List.mem_of_getElem? (Option.mem_toList.1 h), 0, rfl⟩

/-- So has every cursor at the end of a run, by induction on the uses. -/
theorem exists_skip_of_mem_foldl {uses : List Use} {ss : List Cursor} {s : Cursor}
    (h : s ∈ uses.foldl (fun ss use => use.apply ss) ss) : ∃ t ∈ ss, ∃ n, s = skip n t := by
  induction uses generalizing ss with
  | nil => exact ⟨s, h, 0, rfl⟩
  | cons use uses ih =>
    obtain ⟨t, ht, n, rfl⟩ := ih h
    obtain ⟨u, hu, m, rfl⟩ := Use.exists_skip_of_mem_apply ht
    exact ⟨u, hu, m + n, skip_skip m n u⟩

/-- A cursor that has been reached is the one that its text has at some index. -/
theorem exists_eq_atIndex_of_mem_reached {input : String} {label : Option String}
    {uses : List Use} {s : Cursor} (h : s ∈ reached input label uses) :
    ∃ i ≤ input.toList.length, s = atIndex input.toList label i := by
  obtain ⟨t, ht, n, rfl⟩ := exists_skip_of_mem_foldl h
  obtain rfl : t = atIndex input.toList label 0 := List.mem_singleton.1 ht
  exact ⟨_, Nat.min_le_right _ _, skip_atIndex label n (Nat.zero_le _)⟩

/-! ## What a cursor sees -/

/-- A character further on is the one at the cursor once it is there. -/
theorem peekAt?_eq_peek?_skip (n : Nat) (s : Cursor) : s.peekAt? n = (skip n s).peek? := by
  rw [peekAt?, peek?, rest_skip, List.head?_drop]

theorem isAtEnd_iff_peek?_eq_none (s : Cursor) : s.isAtEnd = true ↔ s.peek? = none := by
  rw [isAtEnd, peek?, List.isEmpty_iff, List.head?_eq_none_iff]

theorem peek?_atIndex_eq_none_iff {text : List Char} {label : Option String} {i : Nat}
    (h : i ≤ text.length) : (atIndex text label i).peek? = none ↔ i = text.length := by
  rw [peek?, atIndex, List.head?_eq_none_iff, List.drop_eq_nil_iff]
  omega

/-- The characters after the cursor are those after its byte offset: that offset is never inside a
character. -/
theorem split?_offset_atIndex (text : List Char) (label : Option String) (i : Nat) :
    Utf8.split? (atIndex text label i).offset text
      = some (text.take i, (atIndex text label i).rest) := by
  have := Utf8.split?_size (text.take i) (text.drop i)
  rwa [List.take_append_drop] at this

/-- The byte offset says as well as the rest whether the cursor is at the end. -/
theorem size_le_offset_atIndex_iff {text : List Char} {label : Option String} {i : Nat}
    (h : i ≤ text.length) :
    Utf8.size text ≤ (atIndex text label i).offset ↔ i = text.length := by
  have hsum : Utf8.size text = Utf8.size (text.take i) + Utf8.size (text.drop i) := by
    rw [← Utf8.size_append, List.take_append_drop]
  have hoffset : (atIndex text label i).offset = Utf8.size (text.take i) := rfl
  constructor
  · intro hle
    have hzero : Utf8.size (text.drop i) = 0 := by omega
    have hnil : text.drop i = [] := Utf8.eq_nil_of_size_eq_zero hzero
    have := List.drop_eq_nil_iff.1 hnil
    omega
  · rintro rfl
    have hall : (atIndex text label text.length).offset = Utf8.size text := by
      rw [hoffset, List.take_length]
    exact Nat.le_of_eq hall.symm

/-- **The state of a cursor is a function of its text and its index.** Every cursor that comes of
one at the start of a text, through any moves and copies, has an index within the text; bytes, line,
column and rest are those of the text at that index; it sees what it would come to by going on; and
two cursors of one text with one index agree in all of it, however they got there. -/
theorem reached_determined_by_index (input : String) (label : Option String) (uses : List Use) :
    ∀ s ∈ reached input label uses,
      let text := input.toList
      let i := s.position.index
      i ≤ text.length ∧
      s.offset = Utf8.size (text.take i) ∧
      s.position.line = 1 + (breaks text i).length ∧
      s.position.column =
        (match (breaks text i).max? with
          | some j => i - (1 + j)
          | none => i) ∧
      s.rest = text.drop i ∧
      Utf8.split? s.offset text = some (text.take i, s.rest) ∧
      (∀ n, s.peekAt? n = (skip n s).peek?) ∧
      (s.isAtEnd = true ↔ s.peek? = none) ∧
      (s.peek? = none ↔ i = text.length) ∧
      (Utf8.size text ≤ s.offset ↔ i = text.length) ∧
      ∀ label' uses', ∀ s' ∈ reached input label' uses', s'.position.index = i →
        s' = { s with label := label' } := by
  intro s hs
  obtain ⟨i, hi, rfl⟩ := exists_eq_atIndex_of_mem_reached hs
  refine ⟨hi, rfl, rfl, rfl, rfl, split?_offset_atIndex _ _ _, fun n => peekAt?_eq_peek?_skip n _,
    isAtEnd_iff_peek?_eq_none _, peek?_atIndex_eq_none_iff hi, size_le_offset_atIndex_iff hi, ?_⟩
  intro label' uses' s' hs' hindex
  obtain ⟨i', -, rfl⟩ := exists_eq_atIndex_of_mem_reached hs'
  obtain rfl : i' = i := hindex
  rfl

/-- The copy of a cursor that stands between a carriage return and its line feed goes on over two
bytes, the second of which is inside a character. -/
theorem reached_determined_by_index_inside_crlf :
    let text := ['a', '\r', '\n', 'é', '\u2028', 'b']
    let uses : List Use := [.move 0 (.take 2), .clone 0, .move 1 (.skipBytes 2)]
    let s : Cursor := ⟨text, ['\u2028', 'b'], ⟨4, 2, 1⟩, 5, none⟩
    s ∈ reached (String.ofList text) none uses ∧
      s.offset = Utf8.size (text.take 4) ∧ s.position.line = 1 + (breaks text 4).length := by
  intro text uses s
  have hs : s ∈ reached (String.ofList text) none uses := by
    simp [reached, uses, Use.apply, Move.apply, s, text, ofString, ofList, skip, next,
      Position.next, Position.start, skipBytes, skipUntil, breaksLine, isLineTerminator,
      Char.utf8Size]
  obtain ⟨-, hoffset, hline, -⟩ := reached_determined_by_index (String.ofList text) none uses s hs
  rw [String.toList_ofList] at hoffset hline
  exact ⟨hs, hoffset, hline⟩

end Cursor

end Locus
