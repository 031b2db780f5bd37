/-!
# Base 64

A row of digits in base 64 holds bytes, four digits for three of them. Reading is lenient: what is
no digit is passed over, and the signs that fill up the last four digits end the row.

* `digit?` — the value of a digit.
* `cutDigits` — the digits of a text, and whether they are filled up.
* `decode` — the bytes of a text.
-/

namespace VmScan.Text.Base64

/-- The value of a digit. -/
def digit? (c : Char) : Option Nat :=
  if 'A' ≤ c && c ≤ 'Z' then some (c.toNat - 65)
  else if 'a' ≤ c && c ≤ 'z' then some (c.toNat - 71)
  else if '0' ≤ c && c ≤ '9' then some (c.toNat + 4)
  else if c = '+' then some 62
  else if c = '/' then some 63
  else none

/-- Why a row of digits holds no bytes. -/
inductive Fault where
  /-- The last four digits are not filled up. -/
  | padding
  /-- A single digit is left over; the number of all digits is given. -/
  | leftOver (count : Nat)
  deriving DecidableEq, Repr

/-- The message of a fault. -/
def Fault.message : Fault → String
  | .padding => "Incorrect padding"
  | .leftOver count =>
    s!"Invalid base64-encoded string: number of data characters ({count}) cannot be 1 more than "
      ++ "a multiple of 4"

/-- The digits of a text, and whether they are filled up. Given are the digits that have been read
since the last four, and the signs that have been read behind the last digit; signs count from the
second digit on. -/
def cutDigits (read signs : Nat) : List Char → List Nat × Bool
  | [] => ([], false)
  | c :: cs =>
    if c = '=' then
      if read < 2 then cutDigits read signs cs
      else if read + signs + 1 < 4 then cutDigits read (signs + 1) cs
      else ([], true)
    else match digit? c with
      | some digit =>
        let (digits, isFilled) := cutDigits ((read + 1) % 4) 0 cs
        (digit :: digits, isFilled)
      | none => cutDigits read signs cs

/-- The bytes that digits hold; bits that make up no byte are dropped. -/
def bytes : List Nat → List UInt8
  | a :: b :: c :: d :: digits =>
    UInt8.ofNat (a * 4 + b / 16) :: UInt8.ofNat (b % 16 * 16 + c / 4)
      :: UInt8.ofNat (c % 4 * 64 + d) :: bytes digits
  | [a, b, c] => [UInt8.ofNat (a * 4 + b / 16), UInt8.ofNat (b % 16 * 16 + c / 4)]
  | [a, b] => [UInt8.ofNat (a * 4 + b / 16)]
  | _ => []

/-- The bytes of a text. -/
def decode (text : List Char) : Except Fault (List UInt8) :=
  let (digits, isFilled) := cutDigits 0 0 text
  if isFilled || digits.length % 4 = 0 then .ok (bytes digits)
  else if digits.length % 4 = 1 then .error (.leftOver digits.length)
  else .error .padding

end VmScan.Text.Base64
