import VmScan.Text.Blank
import VmScan.Text.Digit

/-!
# Integers in text

Reading a decimal integer from running text: blanks around it, a sign, digits of any script, and
a single underscore between two digits are allowed. Texts of more than `maxDigits` digits are
refused, with a fault of their own, and so are integers of more digits where they are written.

* `ofDigits` — the value of a row of digits, or the refusal of an overlong row.
* `ofText` — the integer that a whole text writes.
* `Writable` — an integer has at most `maxDigits` digits.
* `toText` — the text of an integer, or the refusal of an overlong one.
-/

namespace VmScan.Number

/-- Why a text gives no integer. -/
inductive IntegerFault where
  | malformed
  | tooManyDigits (count : Nat)
  deriving DecidableEq, Repr

/-- The greatest number of digits that is converted. -/
def maxDigits : Nat := 4300

/-- The message of a refused conversion of `count` digits. -/
def tooManyDigitsMessage (count : Nat) : String :=
  s!"Exceeds the limit ({maxDigits} digits) for integer string conversion: value has {count} "
    ++ "digits; use sys.set_int_max_str_digits() to increase the limit"

/-- The number that a row of digits of any script writes. -/
def digitsValue (digits : List Char) : Nat :=
  digits.foldl (fun n c => 10 * n + (Text.decimalValue? c).getD 0) 0

/-- The value of a row of digits of any script. -/
def ofDigits (digits : List Char) : Except IntegerFault Nat :=
  if maxDigits < digits.length then .error (.tooManyDigits digits.length)
  else .ok (digitsValue digits)

/-- The digits of a group with single underscores between digits; `none` for any other text. -/
def groupedDigits? : List Char → Option (List Char)
  | [] => none
  | [c] => if Text.isDecimalDigit c then some [c] else none
  | c :: '_' :: rest =>
    if Text.isDecimalDigit c then (groupedDigits? rest).map (c :: ·) else none
  | c :: rest => if Text.isDecimalDigit c then (groupedDigits? rest).map (c :: ·) else none

/-- The sign of a number and the text after it. -/
def splitSign : List Char → Bool × List Char
  | '-' :: rest => (true, rest)
  | '+' :: rest => (false, rest)
  | cs => (false, cs)

/-- The integer that the text writes. -/
def ofText (text : List Char) : Except IntegerFault Int :=
  let (negative, body) := splitSign (Text.strip text)
  match groupedDigits? body with
  | none => .error .malformed
  | some digits => do
    let n ← ofDigits digits
    return if negative then -(n : Int) else n

/-- The integer has at most `maxDigits` digits. -/
def Writable (n : Int) : Prop :=
  n.natAbs < Nat.pow 10 maxDigits

instance (n : Int) : Decidable (Writable n) :=
  inferInstanceAs (Decidable (n.natAbs < Nat.pow 10 maxDigits))

/-- Why an integer has no text: it has more than `maxDigits` digits. -/
inductive TextFault where
  | tooManyDigits
  deriving DecidableEq, Repr

/-- The message of a fault. -/
def TextFault.message : TextFault → String
  | .tooManyDigits =>
    s!"Exceeds the limit ({maxDigits} digits) for integer string conversion; "
      ++ "use sys.set_int_max_str_digits() to increase the limit"

/-- The decimal text of the integer. -/
def toText (n : Int) : Except TextFault String :=
  if Writable n then .ok (toString n) else .error .tooManyDigits

end VmScan.Number
