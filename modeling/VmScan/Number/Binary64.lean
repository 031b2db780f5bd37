/-!
# Binary64 numbers

The numbers of the binary64 format as exact values, with the rounding that reading and dividing
need.

* `Binary64` — a finite number is `± significand · 2 ^ exponent`; rounding gives the canonical
  pair, with the significand below `2 ^ 53` and the exponent at least `-1074`.
* `roundRatio` — a quotient to the nearest integer, a half to the even neighbour.
* `nearest` — the binary64 number nearest to a quotient of natural numbers.
* `ofDecimal` — the binary64 number nearest to `digits · 10 ^ exponent`.
* `toInt?` — the integer that a number is, if it is one.
-/

namespace VmScan.Number

/-- A number of the binary64 format. -/
inductive Binary64 where
  | nan
  | infinity (negative : Bool)
  | finite (negative : Bool) (significand : Nat) (exponent : Int)
  deriving DecidableEq, Repr

/-- The integer nearest to `num / den`; a half goes to the even neighbour. -/
def roundRatio (num den : Nat) : Nat :=
  let quotient := num / den
  let twice := 2 * (num % den)
  if twice < den then quotient
  else if den < twice then quotient + 1
  else if quotient % 2 = 0 then quotient else quotient + 1

/-- The number of decimal digits of a natural number. -/
def decimalLength (n : Nat) : Nat :=
  (Nat.toDigits 10 n).length

namespace Binary64

/-- The least exponent of a finite number. -/
def minExponent : Int := -1074

/-- The greatest exponent of a finite number. -/
def maxExponent : Int := 971

/-- Zero of either sign. -/
def zero (negative : Bool) : Binary64 := .finite negative 0 minExponent

/-- The integer below the binary logarithm of the positive quotient `num / den`. -/
def floorLog2 (num den : Nat) : Int :=
  let estimate : Int := (Nat.log2 num : Int) - (Nat.log2 den : Int)
  if den * Nat.pow 2 estimate.toNat ≤ num * Nat.pow 2 (-estimate).toNat then estimate
  else estimate - 1

/-- The finite number with this significand and exponent, or an infinity beyond the format; a
significand that rounding has carried to `2 ^ 53` moves to the next exponent. -/
def ofParts (negative : Bool) (significand : Nat) (exponent : Int) : Binary64 :=
  let (m, e) :=
    if significand = Nat.pow 2 53 then (Nat.pow 2 52, exponent + 1) else (significand, exponent)
  if maxExponent < e then .infinity negative else .finite negative m e

/-- The number nearest to `± num / den`; a half goes to the even significand. -/
def nearest (negative : Bool) (num den : Nat) : Binary64 :=
  if num = 0 then zero negative
  else
    let e := max (floorLog2 num den - 52) minExponent
    ofParts negative (roundRatio (num * Nat.pow 2 (-e).toNat) (den * Nat.pow 2 e.toNat)) e

/-- The number nearest to `± digits · 10 ^ exponent`. Beyond 400 places on either side the answer
is an infinity or zero whatever the digits, and no power is computed. -/
def ofDecimal (negative : Bool) (digits : Nat) (exponent : Int) : Binary64 :=
  if digits = 0 then zero negative
  else
    let magnitude := exponent + decimalLength digits
    if 400 < magnitude then .infinity negative
    else if magnitude < -400 then zero negative
    else nearest negative (digits * Nat.pow 10 exponent.toNat) (Nat.pow 10 (-exponent).toNat)

/-- The finite number as a quotient of natural numbers, without its sign. -/
def ratio (significand : Nat) (exponent : Int) : Nat × Nat :=
  (significand * Nat.pow 2 exponent.toNat, Nat.pow 2 (-exponent).toNat)

/-- The integer with this sign and absolute value. -/
def signed (negative : Bool) (n : Nat) : Int :=
  if negative then -(n : Int) else n

/-- The integer that the number is; `none` for a fraction, an infinity or no number. -/
def toInt? : Binary64 → Option Int
  | .finite negative m e =>
    let (num, den) := ratio m e
    if num % den = 0 then some (signed negative (num / den)) else none
  | _ => none

end Binary64

/-- The least absolute value that rounds to no finite binary64 number. -/
def binary64Bound : Nat := Nat.pow 2 1024 - Nat.pow 2 970

/-- Whether the nearest binary64 number of the integer is finite. -/
def fitsBinary64 (n : Int) : Bool :=
  n.natAbs < binary64Bound

end VmScan.Number
