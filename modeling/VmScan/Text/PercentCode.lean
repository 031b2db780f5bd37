import VmScan.Text.Digit
import VmScan.Text.Utf8

/-!
# Bytes as percent signs with two digits

In percent code a byte of UTF-8 may be written as a percent sign with two hexadecimal digits.

* `bytes` — the bytes of ASCII text in percent code; a percent sign without two digits stands for
  itself.
* `decode` — the text that is written in percent code. What is not ASCII stays as it is and parts
  what is in front of it from what is behind, so that no character reaches across.
-/

namespace VmScan.Text.PercentCode

/-- The byte that two digits at the start write. -/
def byte? : List Char → Option UInt8
  | high :: low :: _ => do return UInt8.ofNat (16 * (← hexValue? high) + (← hexValue? low))
  | _ => none

/-- The bytes of ASCII text. The first characters belong to a byte that is given already; their
number is given. -/
def bytesBehind : Nat → List Char → List UInt8
  | _, [] => []
  | taken + 1, _ :: cs => bytesBehind taken cs
  | 0, c :: cs =>
    match if c = '%' then byte? cs else none with
    | some byte => byte :: bytesBehind 2 cs
    | none => UInt8.ofNat c.toNat :: bytesBehind 0 cs

/-- The bytes of ASCII text in percent code. -/
def bytes (cs : List Char) : List UInt8 :=
  bytesBehind 0 cs

/-- Whether the character is ASCII. -/
def isAscii (c : Char) : Bool :=
  c.toNat < 0x80

/-- The text that is written in percent code. -/
def decode (text : List Char) : List Char :=
  (text.splitBy fun a b => isAscii a = isAscii b).flatMap fun run =>
    if run.all isAscii then Utf8.decodeLossy (bytes run) else run

end VmScan.Text.PercentCode
