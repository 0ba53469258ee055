/-!
# Binary fractions of 64 bits

A number with a fraction or an exponent is kept to the precision of a 64-bit binary fraction. When
it is read, its digits and the power of ten that scales them are rounded first and their product or
quotient after them, so that the value need not be the nearest. The shortest decimal that is nearest
to a value is written. All of it is exact arithmetic on natural numbers.
-/

namespace Locus.Json

/-- The value `mantissa * 2 ^ exponent`, with a mantissa of at most 53 bits. -/
structure Binary64 where
  mantissa : Nat
  exponent : Int
deriving DecidableEq

/-- The value `digits * 10 ^ exponent`. -/
structure Decimal where
  digits : Nat
  exponent : Int
deriving DecidableEq

/-- The numerator and denominator of `n * b ^ e`. -/
def scaled (b n : Nat) (e : Int) : Nat × Nat :=
  if 0 ≤ e then (n * Nat.pow b e.toNat, 1) else (n, Nat.pow b (-e).toNat)

/-- The natural number nearest to a quotient; a half goes to the even neighbour. -/
def roundQuotient (n d : Nat) : Nat :=
  let q := n / d
  let r := n % d
  if 2 * r < d then q else if d < 2 * r then q + 1 else q + q % 2

namespace Binary64

/-- The least exponent, reached by the smallest values. -/
def minExponent : Int := -1074

/-- The greatest exponent. -/
def maxExponent : Int := 971

def zero : Binary64 := ⟨0, minExponent⟩

/-- The value nearest to `n / d`, as if no exponent were too great. -/
def nearest (n d : Nat) : Binary64 :=
  let guess : Int := max minExponent ((n.log2 : Int) - d.log2 - 53)
  let at_ (e : Int) : Nat :=
    let (dn, dd) := scaled 2 d e
    roundQuotient (n * dd) dn
  let exponent := if at_ guess < Nat.pow 2 53 then guess else guess + 1
  let mantissa := at_ exponent
  if n = 0 then zero
  else if mantissa = Nat.pow 2 53 then ⟨Nat.pow 2 52, exponent + 1⟩
  else ⟨mantissa, exponent⟩

/-- A product, rounded. -/
def mul (a b : Binary64) : Binary64 :=
  let (n, d) := scaled 2 (a.mantissa * b.mantissa) (a.exponent + b.exponent)
  nearest n d

/-- A quotient, rounded. -/
def div (a b : Binary64) : Binary64 :=
  let (n, d) := scaled 2 a.mantissa (a.exponent - b.exponent)
  nearest n (d * b.mantissa)

/-- The greatest power of ten that is no more than the greatest value. -/
def maxPower : Nat := 308

/-- A power of ten, rounded. -/
def powerOfTen (k : Nat) : Binary64 := nearest (Nat.pow 10 k) 1

/-- Multiplies a value by a power of ten, or divides it by one, again and again if the power is too
great. Each step is rounded. There is no value if the result is too great. -/
def scale? (b : Binary64) (exponent : Int) : Option Binary64 :=
  if exponent.natAbs ≤ maxPower then
    if 0 ≤ exponent then
      let product := b.mul (powerOfTen exponent.natAbs)
      if product.exponent ≤ maxExponent then some product else none
    else some (b.div (powerOfTen exponent.natAbs))
  else if b.mantissa = 0 then some zero
  else if 0 ≤ exponent then none
  else scale? (b.div (powerOfTen maxPower)) (exponent + maxPower)
termination_by (-exponent).toNat
decreasing_by
  have hpower : (0 : Int) < maxPower := by decide
  omega

/-- The value that a decimal is read as: its digits are rounded first, then scaled. -/
def ofDecimal? (d : Decimal) : Option Binary64 := scale? (nearest d.digits 1) d.exponent

/-- The exponent of the first decimal digit of `n / d`. -/
def leadingExponent (n d : Nat) : Int :=
  if d ≤ n then ((Nat.toDigits 10 (n / d)).length : Int) - 1
  else -((List.range 400).find? fun j => d ≤ n * Nat.pow 10 j).getD 0

/-- The shortest decimal that is nearer to the value than to any other, or on the border to one
with an odd mantissa; of several the nearest, of two equally near the even one. -/
def shortest (b : Binary64) : Decimal :=
  let (vn, vd) := scaled 2 (4 * b.mantissa) b.exponent
  let unit := (scaled 2 1 b.exponent).1
  let below := if b.mantissa = Nat.pow 2 52 ∧ minExponent < b.exponent then unit else 2 * unit
  let above := 2 * unit
  let d := 4 * vd
  let inside (c : Nat) (e : Int) : Bool :=
    let (cn, cd) := scaled 10 c e
    let x := cn * d
    if b.mantissa % 2 = 0 then (vn - below) * cd ≤ x && x ≤ (vn + above) * cd
    else (vn - below) * cd < x && x < (vn + above) * cd
  let lead := leadingExponent vn d
  let attempt (k : Nat) : Option Decimal :=
    let e := lead - k
    let (en, ed) := scaled 10 1 e
    let near := roundQuotient (vn * ed) (d * en)
    let low := vn * ed / (d * en)
    if inside near e then some ⟨near, e⟩
    else if inside low e then some ⟨low, e⟩
    else if inside (low + 1) e then some ⟨low + 1, e⟩
    else none
  ((List.range 17).findSome? attempt).getD ⟨0, 0⟩

end Binary64

/-- A decimal without trailing zeros in its digits. -/
def Decimal.trim (d : Decimal) : Decimal :=
  let zeros := ((Nat.toDigits 10 d.digits).reverse.takeWhile (· = '0')).length
  if d.digits = 0 then ⟨0, 0⟩ else ⟨d.digits / Nat.pow 10 zeros, d.exponent + zeros⟩

end Locus.Json
