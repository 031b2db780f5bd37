import VmScan.Json.Value
import VmScan.Number.Shortest
import VmScan.Text.Quoted

/-!
# Writing JSON

The written form of a value: two blanks of indentation for each level, one item or member on a
line, `[]` and an empty pair of braces for empty containers, and characters outside ASCII as they
are.

* `escapeChar` — quote and backslash take a backslash, five control characters have a letter, and
  the other characters below the space are written by number.
* `writeString`, `writeNumber` — the written form of a leaf.
* `Value.write` — the written form of a value that starts at a level of indentation.
-/

namespace VmScan.Json

open VmScan.Number VmScan.Text

/-- The character as it is written inside a string. -/
def escapeChar (c : Char) : List Char :=
  if c = '"' then ['\\', '"']
  else if c = '\\' then ['\\', '\\']
  else if c = '\n' then ['\\', 'n']
  else if c = '\r' then ['\\', 'r']
  else if c = '\t' then ['\\', 't']
  else if c = '\x0c' then ['\\', 'f']
  else if c = '\x08' then ['\\', 'b']
  else if c.toNat < 0x20 then ['\\', 'u'] ++ hexFixed 4 c.toNat
  else [c]

/-- The written form of a string. -/
def writeString (text : String) : List Char :=
  '"' :: text.toList.flatMap escapeChar ++ ['"']

/-- The written form of a binary64 number. -/
def writeNumber (x : Binary64) : List Char :=
  match x with
  | .nan => "NaN".toList
  | .infinity negative => (if negative then "-Infinity" else "Infinity").toList
  | .finite .. => x.text.toList

/-- A line break and the indentation of a level. -/
def newLine (level : Nat) : List Char :=
  '\n' :: List.replicate (2 * level) ' '

mutual

/-- The written form of a value that starts on a line indented to `level`. -/
def Value.write (level : Nat) : Value → List Char
  | .null => "null".toList
  | .bool b => (if b then "true" else "false").toList
  | .int n => (toString n).toList
  | .float x => writeNumber x
  | .string s => writeString s
  | .array [] => ['[', ']']
  | .array (item :: items) =>
    '[' :: newLine (level + 1) ++ item.write (level + 1) ++ writeItems level items
      ++ newLine level ++ [']']
  | .object [] => ['\x7b', '\x7d']
  | .object (member :: members) =>
    '\x7b' :: newLine (level + 1) ++ writeMember level member ++ writeMembers level members
      ++ newLine level ++ ['\x7d']

/-- The items after the first of an array at `level`. -/
def writeItems (level : Nat) : List Value → List Char
  | [] => []
  | item :: items =>
    ',' :: newLine (level + 1) ++ item.write (level + 1) ++ writeItems level items

/-- A member of an object at `level`. -/
def writeMember (level : Nat) : String × Value → List Char
  | (name, value) => writeString name ++ [':', ' '] ++ value.write (level + 1)

/-- The members after the first of an object at `level`. -/
def writeMembers (level : Nat) : List (String × Value) → List Char
  | [] => []
  | member :: members =>
    ',' :: newLine (level + 1) ++ writeMember level member ++ writeMembers level members

end

/-- The text of a value. -/
def encode (value : Value) : String :=
  String.ofList (value.write 0)

end VmScan.Json
