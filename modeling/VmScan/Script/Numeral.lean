import VmScan.Script.Basic

/-!
# Numerals

How far a number reaches. A name may not follow a number directly, nor a digit a number in base
two or eight.
-/

namespace VmScan.Script

open VmScan.Text

/-- Whether the text starts with what could start a name. -/
def startsName (cs : List Char) : Bool :=
  cs.head?.any fun c => isNameStart c || c = '\\'

/-- Whether the text starts with a decimal digit. -/
def startsDigit (cs : List Char) : Bool :=
  cs.head?.any isAsciiDigit

/-- The length of the digits of a number with a mark for its base, which must not be missing and
must not run into a name or, where `strict`, into another digit. -/
def basedLength? (isDigit : Char → Bool) (strict : Bool) (cs : List Char) : Option Nat :=
  let digits := cs.takeWhile isDigit
  let rest := cs.dropWhile isDigit
  if digits.isEmpty || startsName rest || (strict && startsDigit rest) then none
  else some digits.length

/-- The length of a fraction with its point, if there is one. -/
def fractionLength : List Char → Nat
  | '.' :: cs => (cs.takeWhile isAsciiDigit).length + 1
  | _ => 0

/-- The length of an exponent with its mark; an exponent without digits has none. -/
def exponentLength? : List Char → Option Nat
  | [] => some 0
  | mark :: cs =>
    if mark = 'e' || mark = 'E' then
      let signLength := if cs.head? = some '+' || cs.head? = some '-' then 1 else 0
      let digits := (cs.drop signLength).takeWhile isAsciiDigit
      if digits.isEmpty then none else some (signLength + digits.length + 1)
    else some 0

/-- The length of what belongs to a decimal number behind its first `whole` digits. -/
def decimalRest? (whole : Nat) (cs : List Char) : Option Nat := do
  let fraction := fractionLength cs
  let exponent ← exponentLength? (cs.drop fraction)
  let length := fraction + exponent
  if startsName (cs.drop length) then none else some (whole + length)

/-- Whether digits behind a leading zero make a number in base eight: the first of them is an
octal digit, and no 8 or 9 follows the octal digits. -/
def isLegacyOctal (cs : List Char) : Bool :=
  cs.head?.any isOctalDigit && !startsDigit (cs.dropWhile isOctalDigit)

/-- The number of characters of a number behind its first, which is a digit or a point. -/
def numberRest? (first : Char) (cs : List Char) : Option Nat :=
  if first = '.' then decimalRest? 0 (first :: cs) |>.map (· - 1)
  else
    let decimal :=
      let whole := (cs.takeWhile isAsciiDigit).length
      decimalRest? whole (cs.drop whole)
    if first = '0' then
      match cs with
      | mark :: rest =>
        if mark = 'x' || mark = 'X' then (basedLength? isHexDigit false rest).map (· + 1)
        else if mark = 'b' || mark = 'B' then
          (basedLength? isBinaryDigit true rest).map (· + 1)
        else if mark = 'o' || mark = 'O' then (basedLength? isOctalDigit true rest).map (· + 1)
        else if isLegacyOctal cs then basedLength? isOctalDigit true cs
        else decimal
      | [] => decimal
    else decimal

end VmScan.Script
