import VmScan.Packed.Fault
import VmScan.Packed.Places

/-!
# Scripts with an array of strings

An obfuscated script may start with an array that holds all its strings, under a name that starts
with `_0x`. In the rest of the script, places of the array stand for its strings.

* `isPacked` — whether a script starts with such an array.
* `quotedStrings` — the strings of the array.
* `unpack` — the script behind the array, with the strings where they belong.
-/

namespace VmScan.Packed.StringArray

/-- The text without the blank that it may start with. -/
def skipBlank : List Char → List Char
  | ' ' :: cs => cs
  | cs => cs

/-- Whether the character is a hexadecimal digit of a name, if it is no decimal digit. -/
def isHexLetter (c : Char) : Bool :=
  'a' ≤ c && c ≤ 'f'

/-- The name of the array that the text starts to declare, and what stands behind its bracket. -/
def opened? (isDigit : Char → Bool) (cs : List Char) : Option (List Char × List Char) := do
  let behind ← Text.behind? "var _0x".toList cs
  let isNameDigit := fun c => isHexLetter c || isDigit c
  let digits := behind.takeWhile isNameDigit
  guard !digits.isEmpty
  let behind ← Text.behind? ['='] (skipBlank (behind.dropWhile isNameDigit))
  let behind ← Text.behind? ['['] (skipBlank behind)
  return ("_0x".toList ++ digits, behind)

/-- Whether a script starts with an array of strings. -/
def isPacked (script : List Char) : Bool :=
  (opened? Text.isAsciiDigit script).isSome

/-- An array of strings. -/
structure Strings where
  name : List Char
  /-- The text between its brackets. -/
  items : List Char
  /-- The number of characters that its declaration takes up. -/
  length : Nat

/-- The array of strings that the text declares on its first line. -/
def declared? (cs : List Char) : Option Strings := do
  let (name, behind) ← opened? Text.isDecimalDigit cs
  let (items, rest) ← Text.first? (Text.behind? "];".toList) behind
  guard !items.contains '\n'
  return { name, items, length := cs.length - rest.length }

/-- A string with its quotes, from its characters, the last one first. -/
def enclose (word : List Char) : List Char :=
  '"' :: word.reverse ++ ['"']

/-- The strings between double quotes, with their quotes, and what has been read of the first one,
the last character first, if it is open. A string may end with the text. -/
def quotedStringsFrom : Option (List Char) → List Char → Except Fault (List (List Char))
  | none, [] => .ok []
  | some word, [] => .ok [enclose word]
  | none, c :: cs => quotedStringsFrom (if c = '"' then some [] else none) cs
  | some word, '"' :: cs => (quotedStringsFrom none cs).map (enclose word :: ·)
  | some _, ['\\'] => .error .openEscape
  | some word, '\\' :: c :: cs => quotedStringsFrom (some (c :: '\\' :: word)) cs
  | some word, c :: cs => quotedStringsFrom (some (c :: word)) cs

/-- The strings between double quotes, with their quotes. -/
def quotedStrings (text : List Char) : Except Fault (List (List Char)) :=
  quotedStringsFrom none text

/-- The script with the strings where they belong. As many characters as the declaration has are
taken away from its start. -/
def unpack (script : List Char) : Except Fault (List Char) :=
  match Text.first? declared? script with
  | none => .ok script
  | some (_, strings) =>
    (quotedStrings strings.items).map fun texts =>
      fillPlaces strings.name texts (script.drop strings.length)

end VmScan.Packed.StringArray
