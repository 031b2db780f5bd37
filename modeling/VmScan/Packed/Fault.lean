import VmScan.Number.Integer
import VmScan.Text.Base64
import VmScan.Text.Quoted
import VmScan.Text.Utf8

/-!
# Faults of packed scripts

A packed script carries its text in a form that has to be decoded first. A script that turns out
not to be packed the way it seems stays as it is; but some defects of what it carries end the work.

* `Fault` — such a defect.
* `Fault.message` — its message.
* `Unpacking` — the outcome of unpacking: a fault, or the script, if it is packed as it seems.
-/

namespace VmScan.Packed

/-- Why the text of a packed script cannot be decoded. -/
inductive Fault where
  /-- A string ends behind a backslash. -/
  | openEscape
  /-- A numeral names no word; whether its value is too large for any place. -/
  | noSuchWord (isHuge : Bool)
  /-- A numeral in an alphabet of its own has a digit that is not in it. -/
  | unknownDigit (digit : Char)
  /-- A word is no numeral in the base. -/
  | badNumeral (base : Nat) (word : List Char)
  /-- A numeral has too many digits; their number is given. -/
  | longNumeral (count : Nat)
  | base64 (fault : Text.Base64.Fault)
  | utf8 (fault : Text.Utf8.Fault)
  deriving DecidableEq, Repr

/-- The message of a fault. Of a quoted word, at most 200 characters are shown. -/
def Fault.message : Fault → String
  | .openEscape => "string index out of range"
  | .noSuchWord false => "list index out of range"
  | .noSuchWord true => "cannot fit 'int' into an index-sized integer"
  | .unknownDigit digit => String.ofList (Text.quotedChars [digit])
  | .badNumeral base word =>
    s!"invalid literal for int() with base {base}: "
      ++ String.ofList ((Text.quotedChars word).take 200)
  | .longNumeral count => Number.tooManyDigitsMessage count
  | .base64 fault => fault.message
  | .utf8 fault => fault.message

/-- The outcome of unpacking: a fault, or the script, if it is packed as it seems. -/
abbrev Unpacking := OptionT (Except Fault) (List Char)

end VmScan.Packed
