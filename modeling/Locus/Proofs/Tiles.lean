import Mathlib.Data.List.Chain
import Locus.Proofs.Cursor
import Locus.Token

/-!
# Texts cut into tokens

A text that is cut into tokens from one index to another: every token has as its value the next
characters, at least one, and comes with the location of those characters. Main statements: the
values together are the part of the text between the two indices, every location picks out the
value of its token, and each location ends where the next one starts.
-/

namespace Locus

/-- The token of `n` characters from index `i` on, and the location of these characters. -/
def piece (text : List Char) (source : Option String) (kind : String) (i n : Nat) :
    Token × Location :=
  (Token.ofKind kind (String.ofList ((text.drop i).take n)),
    ⟨source, Position.ofIndex text i, Position.ofIndex text (i + n)⟩)

/-- The pieces lie side by side in the text and cover it from index `i` to index `k`. -/
inductive Tiles (text : List Char) (source : Option String) :
    Nat → List (Token × Location) → Nat → Prop where
  | nil (i : Nat) : Tiles text source i [] i
  | cons {i n k : Nat} {ps : List (Token × Location)} (kind : String) (hpos : 0 < n)
      (hn : i + n ≤ text.length) (rest : Tiles text source (i + n) ps k) :
      Tiles text source i (piece text source kind i n :: ps) k

namespace Tiles

variable {text : List Char} {source : Option String} {i j k : Nat}
  {ps qs : List (Token × Location)}

theorem append (first : Tiles text source i ps j) (last : Tiles text source j qs k) :
    Tiles text source i (ps ++ qs) k := by
  induction first with
  | nil => exact last
  | cons kind hpos hn _ ih => exact .cons kind hpos hn (ih last)

theorem le (h : Tiles text source i ps k) : i ≤ k := by
  induction h with
  | nil => exact Nat.le_refl _
  | cons _ hpos _ _ ih => omega

theorem le_length (h : Tiles text source i ps k) (hi : i ≤ text.length) : k ≤ text.length := by
  induction h with
  | nil => exact hi
  | cons _ _ hn _ ih => exact ih hn

/-- The values, one after another, are the part of the text that is covered. -/
theorem flatMap_value (h : Tiles text source i ps k) :
    ps.flatMap (fun p => p.1.value.toList) = (text.take k).drop i := by
  induction h with
  | nil => simp
  | @cons i n k ps kind hpos hn rest ih =>
    have hle := rest.le
    have hsum : k - i = n + (k - (i + n)) := by omega
    rw [List.drop_take] at ih ⊢
    rw [List.flatMap_cons, ih, hsum, List.take_add, List.drop_drop]
    simp [piece, Token.ofKind]

/-- Every location picks out the value of its token, which is not empty. -/
theorem slice?_of_mem (h : Tiles text source i ps k) {p : Token × Location} (hp : p ∈ ps) :
    p.2.slice? text = some p.1.value.toList ∧ p.1.value ≠ "" := by
  induction h with
  | nil => cases hp
  | @cons i n k ps kind hpos hn rest ih =>
    rcases List.mem_cons.1 hp with rfl | hp
    · have hvalue : (piece text source kind i n).1.value.toList = (text.drop i).take n := by
        simp [piece, Token.ofKind]
      constructor
      · have horder : i ≤ i + n ∧ i + n ≤ text.length := ⟨Nat.le_add_right _ _, hn⟩
        rw [hvalue, Location.slice?_eq, List.take_drop]
        exact if_pos horder
      · intro hempty
        have hlen : ((text.drop i).take n).length = 0 := by
          rw [← hvalue, hempty]
          rfl
        rw [List.length_take, List.length_drop] at hlen
        omega
    · exact ih hp

theorem source_of_mem (h : Tiles text source i ps k) {p : Token × Location} (hp : p ∈ ps) :
    p.2.source = source := by
  induction h with
  | nil => cases hp
  | cons kind hpos hn rest ih =>
    rcases List.mem_cons.1 hp with rfl | hp
    · rfl
    · exact ih hp

/-- The tokens are as the lexer makes them, without locations. -/
theorem eq_ofKind_of_mem (h : Tiles text source i ps k) {p : Token × Location} (hp : p ∈ ps) :
    p.1 = Token.ofKind p.1.kind p.1.value := by
  induction h with
  | nil => cases hp
  | cons kind hpos hn rest ih =>
    rcases List.mem_cons.1 hp with rfl | hp
    · rfl
    · exact ih hp

theorem start_of_mem_head? (h : Tiles text source i ps k) {p : Token × Location}
    (hp : p ∈ ps.head?) : p.2.start = Position.ofIndex text i := by
  cases h with
  | nil => cases hp
  | cons kind hpos hn rest =>
    obtain rfl := Option.some.inj hp
    rfl

theorem stop_of_mem_getLast? (h : Tiles text source i ps k) {p : Token × Location}
    (hp : p ∈ ps.getLast?) : p.2.stop = Position.ofIndex text k := by
  induction h with
  | nil => cases hp
  | @cons i n k ps kind hpos hn rest ih =>
    -- the last piece is this one if nothing follows, and else the last of the rest
    rcases List.eq_nil_or_concat ps with rfl | ⟨qs, q, rfl⟩
    · cases rest
      obtain rfl := Option.some.inj hp
      rfl
    · apply ih
      simpa [List.getLast?_cons] using hp

/-- Each piece ends where the next one starts. -/
theorem isChain (h : Tiles text source i ps k) :
    ps.IsChain fun p q => p.2.stop = q.2.start := by
  induction h with
  | nil => exact .nil
  | cons kind hpos hn rest ih =>
    refine ih.cons fun q hq => ?_
    exact (rest.start_of_mem_head? hq).symm

end Tiles

end Locus
