import Mathlib.Data.Prod.Lex
import Mathlib.Order.Interval.Set.Defs
import Locus.Proofs.Cursor
import Locus.Proofs.Lines

/-!
# The order of lines and columns

Messages name a place by line and column alone, and the column starts again with every line. Main
statement: along a text, lines and columns grow as indices do, line before column, so that what a
message shows names one place of the text.
-/

namespace Locus

namespace Position

/-- Line and column, compared as a reader finds them: first by line, in a line by column. -/
def lineColumn (p : Position) : ℕ ×ₗ ℕ := toLex (p.line, p.column)

theorem lineColumn_lt_iff {p q : Position} :
    p.lineColumn < q.lineColumn ↔ p.line < q.line ∨ p.line = q.line ∧ p.column < q.column :=
  Prod.Lex.toLex_lt_toLex

theorem lineColumn_eq_iff {p q : Position} :
    p.lineColumn = q.lineColumn ↔ p.line = q.line ∧ p.column = q.column := by
  rw [lineColumn, lineColumn, toLex_inj, Prod.mk.injEq]

/-- Every character counts: it takes the place after it to the next line or to the next column.
That holds of a carriage return before its line feed, too, which stays in its line. -/
theorem lineColumn_lt_next (p : Position) (c : Char) (rest : List Char) :
    p.lineColumn < (p.next c rest).lineColumn := by
  rw [lineColumn_lt_iff, next]
  split
  · exact .inl (Nat.lt_succ_self p.line)
  · exact .inr ⟨rfl, Nat.lt_succ_self p.column⟩

/-- What is shown of a position is its line and its column, and no more. -/
theorem display_eq_iff {p q : Position} :
    p.display = q.display ↔ p.lineColumn = q.lineColumn := by
  have hcolon : ∀ n, ':' ∉ Nat.toDigits 10 n := notMem_toDigits_ten (by decide)
  rw [← String.toList_inj, toList_display, toList_display, lineColumn_eq_iff]
  constructor
  · intro h
    obtain ⟨hline, hcolumn⟩ := append_cons_inj_of_notMem (hcolon _) (hcolon _) h
    exact ⟨toDigits_ten_injective hline, toDigits_ten_injective hcolumn⟩
  · rintro ⟨hline, hcolumn⟩
    rw [hline, hcolumn]

end Position

namespace Cursor

/-! ## Steps and runs -/

theorem lineColumn_le_next (s : Cursor) : s.position.lineColumn ≤ s.next.position.lineColumn := by
  rcases hrest : s.rest with _ | ⟨c, rest⟩
  · rw [next_of_nil hrest]
  · rw [next_of_cons hrest]
    exact (s.position.lineColumn_lt_next c rest).le

theorem lineColumn_lt_next {s : Cursor} (h : s.rest ≠ []) :
    s.position.lineColumn < s.next.position.lineColumn := by
  obtain ⟨c, rest, hrest⟩ := List.exists_cons_of_ne_nil h
  rw [next_of_cons hrest]
  exact s.position.lineColumn_lt_next c rest

/-- No run goes back, by induction on its steps. -/
theorem lineColumn_le_skip (n : Nat) (s : Cursor) :
    s.position.lineColumn ≤ (skip n s).position.lineColumn := by
  induction n generalizing s with
  | zero => exact le_rfl
  | succ n ih => exact s.lineColumn_le_next.trans (ih s.next)

/-- A run that passes some character goes on. -/
theorem lineColumn_lt_skip {n : Nat} {s : Cursor} (hn : n ≠ 0) (h : s.rest ≠ []) :
    s.position.lineColumn < (skip n s).position.lineColumn := by
  obtain ⟨m, rfl⟩ := Nat.exists_eq_succ_of_ne_zero hn
  exact (lineColumn_lt_next h).trans_le (lineColumn_le_skip m s.next)

/-! ## Places of a text -/

theorem lineColumn_ofIndex_lt {text : List Char} {i k : Nat} (hik : i < k)
    (hk : k ≤ text.length) :
    (Position.ofIndex text i).lineColumn < (Position.ofIndex text k).lineColumn := by
  have hrest : (atIndex text none i).rest ≠ [] := by
    rw [atIndex, Ne, List.drop_eq_nil_iff]
    omega
  have hlt := lineColumn_lt_skip (Nat.sub_ne_zero_of_lt hik) hrest
  rw [skip_sub_atIndex none hik.le hk] at hlt
  exact hlt

theorem strictMonoOn_lineColumn_ofIndex (text : List Char) :
    StrictMonoOn (fun i => (Position.ofIndex text i).lineColumn) (Set.Iic text.length) :=
  fun _ _ _ hk hik => lineColumn_ofIndex_lt hik hk

/-- **Lines and columns are in the order of indices.** Of any two cursors that come of one at the
start of the same text, the one with the smaller index has the smaller line or, in the same line, the
smaller column, and the other way round. So line and column, or what is shown of them, belong to one
index of the text, also around a carriage return with its line feed, which are a column and a line. -/
theorem reached_lineColumn_lt_iff (input : String) (label label' : Option String)
    (uses uses' : List Use) :
    ∀ s ∈ reached input label uses, ∀ t ∈ reached input label' uses',
      (s.position.index < t.position.index ↔ s.position.lineColumn < t.position.lineColumn) ∧
      (s.position.index = t.position.index ↔ s.position.lineColumn = t.position.lineColumn) ∧
      (s.position.index = t.position.index ↔ s.position.display = t.position.display) := by
  intro s hs t ht
  obtain ⟨i, hi, rfl⟩ := exists_eq_atIndex_of_mem_reached hs
  obtain ⟨k, hk, rfl⟩ := exists_eq_atIndex_of_mem_reached ht
  have hmono := strictMonoOn_lineColumn_ofIndex input.toList
  have heq : i = k ↔ (Position.ofIndex input.toList i).lineColumn
      = (Position.ofIndex input.toList k).lineColumn := (hmono.eq_iff_eq hi hk).symm
  exact ⟨(hmono.lt_iff_lt hi hk).symm, heq, heq.trans Position.display_eq_iff.symm⟩

/-- A cursor between a carriage return and its line feed, and its copy behind them, a separator and a
carriage return that stands alone: its column is smaller. -/
theorem reached_lineColumn_lt_iff_inside_crlf :
    let text := ['a', '\r', '\n', '\u2028', '\r', 'b']
    let uses : List Use := [.move 0 (.take 2), .clone 0, .move 1 (.take 3)]
    let s : Cursor := ⟨text, ['\n', '\u2028', '\r', 'b'], ⟨2, 1, 2⟩, 2, none⟩
    let t : Cursor := ⟨text, ['b'], ⟨5, 4, 0⟩, 7, none⟩
    s ∈ reached (String.ofList text) none uses ∧ t ∈ reached (String.ofList text) none uses ∧
      s.position.lineColumn < t.position.lineColumn ∧ s.position.display ≠ t.position.display := by
  intro text uses s t
  have hreached : reached (String.ofList text) none uses = [s, t] := by
    simp [reached, uses, Use.apply, Move.apply, s, t, text, ofString, ofList, skip, next,
      Position.next, Position.start, breaksLine, isLineTerminator, Char.utf8Size]
  have hs : s ∈ reached (String.ofList text) none uses := by simp [hreached]
  have ht : t ∈ reached (String.ofList text) none uses := by simp [hreached]
  obtain ⟨hlt, -, hdisplay⟩ :=
    reached_lineColumn_lt_iff (String.ofList text) none none uses uses s hs t ht
  exact ⟨hs, ht, hlt.1 (by decide), mt hdisplay.2 (by decide)⟩

end Cursor

end Locus
