/-!
# Positions

A place between two characters of a text, named three ways at once: by the number of characters
before it, by its line, and by its column in that line.
-/

namespace Locus

/-- A place in a text. Lines are counted from one, columns and indices from zero, and all of them
count characters, not bytes. The three numbers are kept as they are given: a position that some
host makes up need not be one that a text has. -/
structure Position where
  /-- How many characters stand before it. -/
  index : Nat
  /-- The line it is in. -/
  line : Nat
  /-- How many characters of its line stand before it. -/
  column : Nat
deriving DecidableEq

/-- The place before the first character of any text. -/
def Position.start : Position := ⟨0, 1, 0⟩

instance : Inhabited Position := ⟨Position.start⟩

/-- A position as people read it: the line, a colon, the column. -/
def Position.display (p : Position) : String :=
  toString p.line ++ ":" ++ toString p.column

end Locus
