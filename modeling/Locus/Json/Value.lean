import Locus.Json.Binary64
import Locus.Json.Reader
import Locus.Keyed

/-!
# JSON values

What a JSON text means: objects are finite maps from keys to values, so neither the order of their
members nor the spelling of their numbers matters any more. The members are kept in the order of
their keys, which is also the order in which they are written.
-/

namespace Locus.Json

/-- A number: an integer of 64 bits, with or without sign, or a decimal to the precision of 64-bit
binary fractions. -/
inductive Number where
  | integer (n : Int)
  | decimal (negative : Bool) (d : Decimal)
deriving DecidableEq

/-- A JSON value. The members of an object ascend by key. -/
inductive Value where
  | null
  | bool (b : Bool)
  | number (n : Number)
  | string (s : String)
  | array (items : List Value)
  | object (members : List (String × Value))

instance : Inhabited Value := ⟨.null⟩

/-! ## Numbers -/

/-- The integers that are kept as such. -/
def Number.fits (n : Int) : Bool :=
  -(Nat.pow 2 63 : Int) ≤ n && n ≤ maxWord

/-- The digits of a numeral that fit in 64 bits, and the place of the last of them. The digits before
the point that do not fit count as zeros, and those after the point not at all. -/
def Numeral.leading (n : Numeral) : Decimal :=
  let (whole, zeros) := appendDigits 0 (Nat.toDigits 10 n.whole)
  let decimals := n.decimals.getD []
  let (digits, ignored) := appendDigits whole decimals
  ⟨digits, zeros.length - (decimals.length - ignored.length)⟩

/-- The greatest exponent that is computed with. -/
def maxDecimalExponent : Nat := Nat.pow 2 31 - 1

/-- The value that a numeral is read as; none if it is too great. -/
def Numeral.value? (n : Numeral) : Option Binary64 :=
  let d := n.leading
  let exponent := n.exponent.getD 0
  if exponent.natAbs ≤ maxDecimalExponent then
    Binary64.ofDecimal? ⟨d.digits, d.exponent + exponent⟩
  else if d.digits ≠ 0 ∧ 0 < exponent then none
  else some .zero

/-- The number that a numeral stands for; none if it is too great. Only digits alone, in range,
are an integer; minus zero is not. -/
def Number.ofNumeral? (n : Numeral) : Option Number :=
  let signed : Int := if n.negative then -(n.whole : Int) else n.whole
  if n.decimals = none ∧ n.exponent = none ∧ Number.fits signed ∧ ¬(n.negative ∧ n.whole = 0) then
    some (.integer signed)
  else n.value?.map fun b => .decimal n.negative b.shortest.trim

/-- Positional notation reaches up to this place before the point. -/
def maxPlaces : Int := 16

/-- Positional notation reaches down to this many zeros after the point. -/
def minPlaces : Int := -5

/-- How a decimal is written: positionally if its point is near its digits, with at least one
digit on both sides, and otherwise with an exponent after the first digit. -/
def Number.numeral : Number → Numeral
  | .integer n => ⟨n < 0, n.natAbs, none, none⟩
  | .decimal negative d =>
    let ds := Nat.toDigits 10 d.digits
    let point : Int := ds.length + d.exponent
    if d.digits = 0 then ⟨negative, 0, some ['0'], none⟩
    else if 0 ≤ d.exponent ∧ point ≤ maxPlaces then
      ⟨negative, d.digits * Nat.pow 10 d.exponent.toNat, some ['0'], none⟩
    else if 0 < point ∧ point ≤ maxPlaces then
      ⟨negative, Numeral.digitsValue (ds.take point.toNat), some (ds.drop point.toNat), none⟩
    else if minPlaces < point ∧ point ≤ 0 then
      ⟨negative, 0, some (List.replicate (-point).toNat '0' ++ ds), none⟩
    else
      let after := ds.drop 1
      ⟨negative, Numeral.digitsValue (ds.take 1), if after = [] then none else some after,
        some (point - 1)⟩

/-! ## Values and texts -/

namespace Value

/-- The natural number `n`. -/
def ofNat (n : Nat) : Value := .number (.integer n)

/-- The object with the given members; of two with one key the later counts. -/
def record (members : List (String × Value)) : Value :=
  .object (Keyed.ofList members)

mutual

/-- What a tree means; none if it holds a string that is no text or a number that is too great. -/
def ofTree? : Tree → Option Value
  | .null => some .null
  | .bool b => some (.bool b)
  | .number n => (Number.ofNumeral? n).map .number
  | .string s => s.map .string
  | .array items => (ofItems? items).map .array
  | .object members => (ofMembers? members).map fun ms => .object (Keyed.ofList ms)

/-- What the items of an array mean. -/
def ofItems? : List Tree → Option (List Value)
  | [] => some []
  | t :: rest => do
    let v ← ofTree? t
    let vs ← ofItems? rest
    some (v :: vs)

/-- What the members of an object mean, in the order in which they are written. -/
def ofMembers? : List (Option String × Tree) → Option (List (String × Value))
  | [] => some []
  | (k, t) :: rest => do
    let key ← k
    let v ← ofTree? t
    let vs ← ofMembers? rest
    some ((key, v) :: vs)

end

mutual

/-- The tree that spells a value. -/
def tree : Value → Tree
  | .null => .null
  | .bool b => .bool b
  | .number n => .number n.numeral
  | .string s => .string (some s)
  | .array items => .array (treeItems items)
  | .object members => .object (treeMembers members)

/-- The trees that spell the items of an array. -/
def treeItems : List Value → List Tree
  | [] => []
  | v :: rest => v.tree :: treeItems rest

/-- The trees that spell the members of an object. -/
def treeMembers : List (String × Value) → List (Option String × Tree)
  | [] => []
  | (k, v) :: rest => (some k, v.tree) :: treeMembers rest

end

/-- The text of a value, without blanks. -/
def text (v : Value) : List Char := v.tree.text

/-- The value that a text spells. -/
def ofText? (text : List Char) : Option Value := do
  ofTree? (← Tree.ofText? text)

/-- The value under a key, if this is an object that has it. -/
def member? (v : Value) (key : String) : Option Value :=
  match v with
  | .object members => Keyed.find? key members
  | _ => none

end Value

end Locus.Json
