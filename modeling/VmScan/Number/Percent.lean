import VmScan.Number.Shortest

/-!
# Percentages

* `percent` — how much a part is of a whole, in percent with one decimal place. Each of the three
  steps (the quotient, its hundredfold, the rounding) gives the nearest binary64 number.
-/

namespace VmScan.Number

namespace Binary64

/-- The nearest number to `factor` times a finite number. -/
def times (factor : Nat) : Binary64 → Binary64
  | .finite negative m e =>
    let (num, den) := ratio m e
    nearest negative (num * factor) den
  | x => x

/-- The nearest number to a finite number rounded to tenths; of two tenths that are as near, the
even one counts. -/
def toTenths : Binary64 → Binary64
  | .finite negative m e =>
    let (num, den) := ratio m e
    nearest negative (roundRatio (num * 10) den) 10
  | x => x

end Binary64

/-- How much `part` is of `whole` in percent, with one decimal place. -/
def percent (part whole : Nat) : Binary64 :=
  ((Binary64.nearest false part whole).times 100).toTenths

end VmScan.Number
