/-!
# General categories

The classification of characters on which the classes of patterns and the quoting of texts rest.
Letters of both cases are one category here, and so are all punctuation marks but the connectors
and all symbols.
-/

namespace Locus.Unicode

/-- What kind of character a code point is. -/
inductive Category where
  | letter
  | nonspacingMark
  | enclosingMark
  | spacingMark
  | decimalDigit
  | letterNumber
  | otherNumber
  | connector
  | punctuation
  | symbol
  | space
  | lineSeparator
  | paragraphSeparator
  | control
  | format
  | surrogate
  | privateUse
  | unassigned
deriving DecidableEq

/-- The value under the last key that is not greater than `n`, in a list with ascending keys. -/
def lastAtMost {α : Type} (n : Nat) (default : α) : List (Nat × α) → α
  | [] => default
  | (k, v) :: rest => if k ≤ n then lastAtMost n v rest else default

end Locus.Unicode
