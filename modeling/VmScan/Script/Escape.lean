import VmScan.Script.Basic

/-!
# Escapes

The lengths of the escape sequences of strings, templates and names. All functions get the text
behind the backslash.

* `codePoint?` — the code point and the length of digits in braces.
* `hexFixed?` — the value of a fixed number of hexadecimal digits.
* `stringEscape`, `templateEscape` — how much belongs to an escape behind its first character.
-/

namespace VmScan.Script

open VmScan.Text

/-- The value of a row of hexadecimal digits. -/
def hexDigitsValue (digits : List Char) : Nat :=
  digits.foldl (fun n c => 16 * n + (hexValue? c).getD 0) 0

/-- The code point that digits and a closing brace write, and their length together. -/
def codePoint? (cs : List Char) : Option (Nat × Nat) :=
  let digits := cs.takeWhile isHexDigit
  let code := hexDigitsValue digits
  if digits.isEmpty || 0x10FFFF < code || (cs.drop digits.length).head? ≠ some '\x7d' then none
  else some (code, digits.length + 1)

/-- The value of exactly `count` hexadecimal digits. -/
def hexFixed? (count : Nat) (cs : List Char) : Option Nat :=
  let digits := cs.take count
  if digits.length = count && digits.all isHexDigit then some (hexDigitsValue digits) else none

/-- The number of characters behind `u` that belong to an escape by number in a string; `none`
where the digits are wrong. -/
def unicodeEscape? : List Char → Option Nat
  | '\x7b' :: cs => (codePoint? cs).map fun (_, length) => length + 1
  | cs => (hexFixed? 4 cs).map fun _ => 4

/-- The number of characters that belong to a line end behind its first. -/
def lineEndRest (first : Char) (cs : List Char) : Nat :=
  if first = '\r' && cs.head? = some '\n' then 1 else 0

/-- The number of characters that belong to an escape in a string behind its first. -/
def stringEscape (first : Char) (cs : List Char) : Except Cause Nat :=
  if first = 'u' then
    match unicodeEscape? cs with
    | some length => .ok length
    | none => .error .illegal
  else if first = 'x' then
    if (hexFixed? 2 cs).isSome then .ok 2 else .error .hexEscape
  else if first = '8' || first = '9' then .error .illegal
  else .ok (lineEndRest first cs)

/-- The number of characters that belong to an escape in a template behind its first; wrong digits
behind `u` are taken as they stand unless they open with a brace. -/
def templateEscape (first : Char) (cs : List Char) : Except Cause Nat :=
  if first = 'u' then
    if cs.head? = some '\x7b' then
      match unicodeEscape? cs with
      | some length => .ok length
      | none => .error .illegal
    else .ok 0
  else if first = 'x' then
    if (hexFixed? 2 cs).isSome then .ok 2 else .error .hexEscape
  else if first = '0' then
    if cs.head?.any isAsciiDigit then .error .templateOctal else .ok 0
  else if isOctalDigit first then .error .templateOctal
  else .ok (lineEndRest first cs)

/-- The character that an escape in a name writes and the length of the escape. Four digits must
write a character that `accept` allows there; digits in braces may write any. -/
def nameEscape? (accept : Char → Bool) : List Char → Option (Char × Nat)
  | 'u' :: '\x7b' :: cs => (codePoint? cs).map fun (code, length) => (Char.ofNat code, length + 2)
  | 'u' :: cs =>
    match hexFixed? 4 cs with
    | none => none
    | some code =>
      let c := Char.ofNat code
      if c ≠ '\\' && accept c then some (c, 5) else none
  | _ => none

end VmScan.Script
