import Locus.Position
import Locus.Text.Utf8

/-!
# Cursors

A place in a text that moves forward over it. Index, line, column and byte offset are kept in step
with every character consumed, so a cursor knows where it is at any time without reading the text
again.
-/

namespace Locus

/-- The characters that end a line on their own. -/
def isLineTerminator (c : Char) : Bool :=
  c = '\n' || c = '\r' || c = '\u2028' || c = '\u2029'

/-- Whether the character `c` breaks the line when `rest` follows it. A carriage return right
before a line feed does not: the pair is one break, counted on the line feed. -/
def breaksLine (c : Char) (rest : List Char) : Bool :=
  isLineTerminator c && !(c = '\r' && rest.head? = some '\n')

/-- The position after the character `c`, which stands at `p` and has `rest` after it. -/
def Position.next (p : Position) (c : Char) (rest : List Char) : Position :=
  if breaksLine c rest then ⟨p.index + 1, p.line + 1, 0⟩
  else ⟨p.index + 1, p.line, p.column + 1⟩

/-- A place in a text, together with what is left of the text there. -/
structure Cursor where
  /-- The whole text. -/
  input : List Char
  /-- What has not been consumed yet. -/
  rest : List Char
  /-- Where the cursor stands. -/
  position : Position
  /-- How many bytes of the text's UTF-8 form stand before the cursor. -/
  offset : Nat
  /-- The label of the text. -/
  label : Option String
deriving DecidableEq

namespace Cursor

/-- A cursor before the first character. -/
def ofList (input : List Char) (label : Option String) : Cursor :=
  ⟨input, input, Position.start, 0, label⟩

/-- A cursor before the first character. -/
def ofString (input : String) (label : Option String) : Cursor :=
  ofList input.toList label

/-- The next character, left where it is. -/
def peek? (s : Cursor) : Option Char :=
  s.rest.head?

/-- The character `n` places further on, left where it is. -/
def peekAt? (s : Cursor) (n : Nat) : Option Char :=
  s.rest[n]?

/-- Whether nothing is left. -/
def isAtEnd (s : Cursor) : Bool :=
  s.rest.isEmpty

/-- Moves over one character; at the end it stays. -/
def next (s : Cursor) : Cursor :=
  match s.rest with
  | [] => s
  | c :: rest =>
    { s with rest := rest, position := s.position.next c rest, offset := s.offset + c.utf8Size }

/-- Moves over `n` characters, or to the end if fewer are left. -/
def skip : Nat → Cursor → Cursor
  | 0, s => s
  | n + 1, s => skip n s.next

theorem next_of_nil {s : Cursor} (h : s.rest = []) : s.next = s := by
  rw [next, h]

theorem next_of_cons {s : Cursor} {c : Char} {rest : List Char} (h : s.rest = c :: rest) :
    s.next =
      { s with rest := rest, position := s.position.next c rest,
               offset := s.offset + c.utf8Size } := by
  rw [next, h]

theorem rest_next (s : Cursor) : s.next.rest = s.rest.drop 1 := by
  rcases h : s.rest with _ | ⟨c, rest⟩
  · rw [next_of_nil h, h]
    rfl
  · rw [next_of_cons h]
    rfl

theorem rest_skip (n : Nat) (s : Cursor) : (skip n s).rest = s.rest.drop n := by
  induction n generalizing s with
  | zero => rfl
  | succ n ih => rw [skip, ih, rest_next, List.drop_drop, Nat.add_comm]

/-- Moves over characters until `target` bytes stand before the cursor. A target inside a character
is rounded up to its end, one past the text is the end of the text. -/
def skipUntil (target : Nat) (s : Cursor) : Cursor :=
  if s.offset < target ∧ s.rest ≠ [] then skipUntil target s.next else s
termination_by s.rest.length
decreasing_by
  next h =>
    have hlen : 0 < s.rest.length := List.length_pos_iff.2 h.2
    rw [rest_next, List.length_drop]
    omega

/-- Moves over as many characters as it takes to pass `n` bytes. -/
def skipBytes (n : Nat) (s : Cursor) : Cursor :=
  skipUntil (s.offset + n) s

/-- The bytes of the next characters take the cursor over exactly those characters. -/
theorem skipBytes_size {s : Cursor} {cs ds : List Char} (h : s.rest = cs ++ ds) :
    s.skipBytes (Utf8.size cs) = skip cs.length s := by
  rw [skipBytes]
  induction cs generalizing s with
  | nil =>
    rw [skipUntil, if_neg (by simp)]
    rfl
  | cons c cs ih =>
    have hpos := c.utf8Size_pos
    have hnext : s.next.rest = cs ++ ds := by rw [rest_next, h]; rfl
    have hoffset : s.next.offset = s.offset + c.utf8Size := by rw [next_of_cons h]
    have htarget : s.offset + Utf8.size (c :: cs) = s.next.offset + Utf8.size cs := by
      rw [Utf8.size_cons, hoffset, Nat.add_assoc]
    have hgoes : s.offset < s.offset + Utf8.size (c :: cs) ∧ s.rest ≠ [] := by
      rw [Utf8.size_cons, h]
      exact ⟨by omega, List.cons_ne_nil _ _⟩
    rw [skipUntil, if_pos hgoes, htarget, ih hnext]
    rfl

/-- The next `n` characters, or all that are left if they are fewer. -/
def take (n : Nat) (s : Cursor) : List Char :=
  s.rest.take n

end Cursor

end Locus
