/-!
# Numerals

Numbers as JSON writes them: an optional minus sign, digits without a needless leading zero, then
optionally a point with digits and an exponent.
-/

namespace Locus.Json

/-- A number as it is written. -/
structure Numeral where
  /-- Whether a minus sign stands in front. -/
  negative : Bool
  /-- The digits before the point, as a number; no leading zero is written. -/
  whole : Nat
  /-- The digits after the point, if there is one. -/
  decimals : Option (List Char)
  /-- The exponent, if there is one. -/
  exponent : Option Int
deriving DecidableEq

/-- The greatest natural number that fits in 64 bits. -/
def maxWord : Nat := Nat.pow 2 64 - 1

namespace Numeral

/-- The numeral of a natural number. -/
def ofNat (n : Nat) : Numeral := ⟨false, n, none, none⟩

/-- The natural number that a numeral writes out in full, if it fits in 64 bits. A sign, a point
or an exponent make it no natural number, even where the value is one. -/
def natural? (n : Numeral) : Option Nat :=
  if n.negative = false ∧ n.decimals = none ∧ n.exponent = none ∧ n.whole ≤ maxWord then
    some n.whole
  else none

/-- The characters that a numeral may hold. -/
def isPart (c : Char) : Bool :=
  c.isDigit || c = '-' || c = '+' || c = '.' || c = 'e' || c = 'E'

/-- The number that digits spell. -/
def digitsValue (ds : List Char) : Nat :=
  Nat.ofDigitChars 10 ds 0

/-- Writes digits behind a number as long as it fits in 64 bits. Gives the digits that are left,
too. -/
def appendDigits (n : Nat) : List Char → Nat × List Char
  | [] => (n, [])
  | d :: ds =>
    let longer := 10 * n + (d.toNat - '0'.toNat)
    if longer ≤ maxWord then appendDigits longer ds else (n, d :: ds)

/-- Reads the digits before the point: no leading zero, unless it is the only digit. -/
def wholeDigits? (ds : List Char) : Option Nat :=
  match ds with
  | [] => none
  | d :: rest => if d = '0' ∧ rest ≠ [] then none else some (digitsValue ds)

/-- Reads an exponent after its letter: a sign may precede the digits, of which there is one. -/
def exponentDigits? (cs : List Char) : Option Int :=
  let (negative, ds) :=
    match cs with
    | '-' :: ds => (true, ds)
    | '+' :: ds => (false, ds)
    | ds => (false, ds)
  if ds ≠ [] ∧ ds.all Char.isDigit then
    some (if negative then -(digitsValue ds : Int) else digitsValue ds)
  else none

/-- Reads what follows the digits before the point: the digits after it and the exponent. -/
def tail? (cs : List Char) : Option (Option (List Char) × Option Int) :=
  match cs with
  | [] => some (none, none)
  | '.' :: rest =>
    let ds := rest.takeWhile Char.isDigit
    if ds = [] then none
    else
      match rest.dropWhile Char.isDigit with
      | [] => some (some ds, none)
      | c :: more =>
        if c = 'e' ∨ c = 'E' then (exponentDigits? more).map fun e => (some ds, some e) else none
  | c :: more =>
    if c = 'e' ∨ c = 'E' then (exponentDigits? more).map fun e => (none, some e) else none

/-- Reads a numeral without its sign. -/
def unsigned? (negative : Bool) (cs : List Char) : Option Numeral := do
  let whole ← wholeDigits? (cs.takeWhile Char.isDigit)
  let (decimals, exponent) ← tail? (cs.dropWhile Char.isDigit)
  some ⟨negative, whole, decimals, exponent⟩

/-- Reads a numeral that takes up all of the characters. -/
def ofList? (cs : List Char) : Option Numeral :=
  match cs with
  | '-' :: rest => unsigned? true rest
  | _ => unsigned? false cs

/-- The text of an integer: a minus sign if it is negative, then the digits. -/
def intText (i : Int) : List Char :=
  if i < 0 then '-' :: Nat.toDigits 10 i.natAbs else Nat.toDigits 10 i.natAbs

/-- The text of a numeral. -/
def text (n : Numeral) : List Char :=
  (if n.negative then ['-'] else []) ++ Nat.toDigits 10 n.whole
    ++ (match n.decimals with | some ds => '.' :: ds | none => [])
    ++ (match n.exponent with | some e => 'e' :: intText e | none => [])

end Numeral

end Locus.Json
