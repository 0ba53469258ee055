/-!
# Ranges of code points

Classes of characters as ranges of code points, and the texts that list them.
-/

namespace Locus.Unicode

/-- Whether one of the ranges, both ends included, holds `n`. -/
def inRanges (n : Nat) (ranges : List (Nat × Nat)) : Bool :=
  ranges.any fun r => r.1 ≤ n && n ≤ r.2

/-- What stands between two blanks: nothing, a number, or every `step`-th number from `first` to
`last`. -/
def rangesTo (first : Option Nat) (step : Nat) (last : Option Nat) : List (Nat × Nat) :=
  match first, last with
  | _, none => []
  | none, some last => [(last, last)]
  | some first, some last =>
    if step = 1 then [(first, last)]
    else (List.range ((last - first) / step + 1)).map fun i => (first + step * i, first + step * i)

/-- The value of a hexadecimal digit, with capital letters. -/
def hexDigit (c : Char) : Nat :=
  if c.isDigit then c.toNat - '0'.toNat else c.toNat - 'A'.toNat + 10

/-- Reads ranges, where `n` is the number so far and `first` the one before it. -/
def readRanges (first : Option Nat) (step : Nat) (n : Option Nat) :
    List Char → List (Nat × Nat)
  | [] => rangesTo first step n
  | c :: cs =>
    if c.isWhitespace then rangesTo first step n ++ readRanges none 1 none cs
    else if c = '-' then readRanges n 1 none cs
    else if c = '/' then readRanges n 2 none cs
    else readRanges first step (some (16 * n.getD 0 + hexDigit c)) cs

/-- The ranges that a text lists, in hexadecimal numbers and apart by blanks: a number alone, a
range with a dash, or every second number of a range with a slash. -/
def rangesOf (text : String) : List (Nat × Nat) := readRanges none 1 none text.toList

end Locus.Unicode
