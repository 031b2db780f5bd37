import VmScan.Number.Binary64

/-!
# Shortest decimal text

The text of a binary64 number: the fewest decimal digits that read back as the same number.

* `shortest` — the shortest decimal of a positive number: of the two neighbours of its value on
  the grids of 1, 2, … 17 digits, the first that reads back; of two that do, the nearer.
* `Binary64.text` — positional from `0.0001` up to 16 digits before the point and with an
  exponent of at least two digits elsewhere; a whole number keeps `.0` in positional form.
-/

namespace VmScan.Number

/-- A decimal `digits · 10 ^ exponent`. -/
structure Decimal where
  digits : Nat
  exponent : Int
  deriving DecidableEq, Repr

namespace Binary64

/-- The number of digits before the decimal point of a positive value, negative or zero when it
starts that many places after the point. -/
def decimalPoint (num den : Nat) : Int :=
  (decimalLength (num * Nat.pow 10 400 / den) : Int) - 400

/-- The neighbour of the value on the grid of `count` digits that reads back as the number. -/
def onGrid? (m : Nat) (e : Int) (count : Nat) : Option Decimal :=
  let (num, den) := ratio m e
  let grid := decimalPoint num den - count
  let scaledNum := num * Nat.pow 10 (-grid).toNat
  let scaledDen := den * Nat.pow 10 grid.toNat
  let below := scaledNum / scaledDen
  let readsBack (digits : Nat) : Bool := ofDecimal false digits grid = .finite false m e
  let preferred := roundRatio scaledNum scaledDen
  let other := if preferred = below then below + 1 else below
  if readsBack preferred then some ⟨preferred, grid⟩
  else if readsBack other then some ⟨other, grid⟩
  else none

/-- The shortest decimal that reads back as the positive number `m · 2 ^ e`. -/
def shortest (m : Nat) (e : Int) : Decimal :=
  (((List.range 17).map (· + 1)).findSome? (onGrid? m e)).getD ⟨m, e⟩

end Binary64

/-- The digits without trailing zeros. -/
def dropTrailingZeros (digits : List Char) : List Char :=
  (digits.reverse.dropWhile (· = '0')).reverse

/-- The exponent of a number in scientific form: a sign and at least two digits. -/
def exponentText (exponent : Int) : List Char :=
  let digits := Nat.toDigits 10 exponent.natAbs
  (if exponent < 0 then ['-'] else ['+']) ++ (if digits.length < 2 then '0' :: digits else digits)

/-- The decimal `0.d₁d₂… · 10 ^ point` with the point or an exponent written in. -/
def pointText (digits : List Char) (point : Int) : List Char :=
  if -4 < point ∧ point ≤ 16 then
    if point ≤ 0 then
      ['0', '.'] ++ List.replicate (-point).toNat '0' ++ digits
    else if digits.length ≤ point.toNat then
      digits ++ List.replicate (point.toNat - digits.length) '0' ++ ['.', '0']
    else
      digits.take point.toNat ++ ['.'] ++ digits.drop point.toNat
  else
    let tail := digits.drop 1
    digits.take 1 ++ (if tail.isEmpty then [] else '.' :: tail) ++ ['e']
      ++ exponentText (point - 1)

/-- The text of a number. -/
def Binary64.text : Binary64 → String
  | .nan => "nan"
  | .infinity negative => if negative then "-inf" else "inf"
  | .finite negative m e =>
    let body :=
      if m = 0 then ['0', '.', '0']
      else
        let decimal := shortest m e
        let digits := Nat.toDigits 10 decimal.digits
        pointText (dropTrailingZeros digits) (decimal.exponent + digits.length)
    String.ofList (if negative then '-' :: body else body)

end VmScan.Number
