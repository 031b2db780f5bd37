import VmScan.Packed.Numeral
import VmScan.Packed.Places
import VmScan.Text.Lines

/-!
# Scripts with a table of words

A packed script evaluates a text in which numerals stand for the words of a table.

* `Surroundings` — what stands around the packed part of a script.
* `Parcel` — what a packed script carries: a text, the table, and the base of the numerals.
* `unpack` — the script with the words in the places of the numerals.
-/

namespace VmScan.Packed.WordTable

/-! ## What stands around -/

/-- The pieces that a packed script starts with; blanks may stand between them. -/
def opening : List String :=
  ["eval", "(", "function", "(", "p", ",", "a", ",", "c", ",", "k", ",", "e", ","]

/-- Whether the text starts with the pieces. -/
def startsWithAll : List String → List Char → Bool
  | [], _ => true
  | piece :: pieces, cs =>
    match Text.behind? piece.toList cs with
    | some behind => startsWithAll pieces (Text.skipSpaces behind)
    | none => false

/-- The text at a place where a packed script starts. -/
def opened? (cs : List Char) : Option (List Char) :=
  if startsWithAll opening cs then some cs else none

/-- What stands around the packed part of a script. -/
structure Surroundings where
  front : List Char
  rest : List Char
  deriving DecidableEq, Repr

/-- The text behind the first place of a pattern. -/
def behindFirst? (pattern : String) (cs : List Char) : Option (List Char) :=
  (Text.first? (Text.behind? pattern.toList) cs).map (·.2)

/-- What stands around the packed part, if a script has one. -/
def surroundings? (script : List Char) : Option Surroundings :=
  (Text.first? opened? script).map fun (front, packed) =>
    let rest := behindFirst? "')))" packed <|> behindFirst? "\x7d))" packed
    { front, rest := rest.getD [] }

/-! ## What is carried -/

/-- A row of digits at the start, and the text behind it. -/
def cutDigits? (cs : List Char) : Option (List Char × List Char) :=
  let digits := cs.takeWhile Text.isDecimalDigit
  if digits.isEmpty then none else some (digits, cs.dropWhile Text.isDecimalDigit)

/-- The text behind a comma and blanks. -/
def behindComma? (cs : List Char) : Option (List Char) :=
  (Text.behind? [','] cs).map Text.skipSpaces

/-- What stands between the carried text and the words: the size of the base and the number of
words, as digits. -/
structure Statement where
  /-- An empty list in the place of the size stands for 62. -/
  size : Option (List Char)
  count : List Char

/-- What the text states from the quote behind the carried text on, and the text behind the quote
in front of the words. -/
def stated? (cs : List Char) : Option (Statement × List Char) := do
  let cs ← behindComma? (← Text.behind? ['\''] cs)
  let (size, cs) ← match Text.behind? ['[', ']'] cs with
    | some behind => some (none, behind)
    | none => (cutDigits? cs).map fun (digits, behind) => (some digits, behind)
  let (count, cs) ← cutDigits? (← behindComma? cs)
  let words ← Text.behind? ['\''] (← behindComma? cs)
  return ({ size, count }, words)

/-- The text behind the end of the words. -/
def wordsEnd? (cs : List Char) : Option (List Char) :=
  Text.behind? "'.split('|')".toList cs

/-- The text behind the end of the words, if it goes on as a call does that has all its
arguments. -/
def callEnd? (cs : List Char) : Option (List Char) := do
  let (_, cs) ← cutDigits? (← behindComma? (← wordsEnd? cs))
  let arguments ← behindComma? cs
  if Text.occursIn "))".toList arguments then some arguments else none

/-- What a packed script carries: a text, and a table of words with the size of the base. -/
structure Parcel where
  text : List Char
  size : Nat
  words : List (List Char)

/-- The parcel of a script, if the words end where something can be read. The words reach as far
as they can, and so does the text. The number of words is right. -/
def parcelBy? (end? : List Char → Option (List Char)) (script : List Char) :
    Option (Option Parcel) := do
  let (front, _) ← Text.last? end? script
  let (front, statement, words) ← Text.last? stated? front
  let (_, text) ← Text.first? (Text.behind? "\x7d('".toList) front
  let words := Text.splitOn '|' words
  return do
    let size ← match statement.size with
      | none => some 62
      | some digits => (Number.ofDigits digits).toOption
    let count ← (Number.ofDigits statement.count).toOption
    guard (count = words.length)
    return { text, size, words }

/-- The parcel of a script. -/
def parcel? (script : List Char) : Option Parcel :=
  ((parcelBy? callEnd? script) <|> (parcelBy? wordsEnd? script)).join

/-! ## Unpacking -/

/-- The word of a table that a numeral stands for; the numeral itself where the word is empty. -/
def wordAt (base : Base) (words : List (List Char)) (numeral : List Char) :
    Except Fault (List Char) := do
  let index ← base.value numeral
  match words[index]? with
  | none => .error (.noSuchWord (Nat.pow 2 63 ≤ index))
  | some word => .ok (if word.isEmpty then numeral else word)

/-- A text with the words in the places of the numerals. -/
def fill (base : Base) (words : List (List Char)) (text : List Char) : Except Fault (List Char) :=
  let runs := text.splitBy fun a b => Text.isAsciiWord a = Text.isAsciiWord b
  let fillRun := fun (run : List Char) =>
    if run.all Text.isAsciiWord then wordAt base words run else .ok run
  (runs.mapM fillRun).map List.flatten

/-- The carried text without the backslashes in front of backslashes and quotes. -/
def unescape (text : List Char) : List Char :=
  Text.replaceAll ['\\', '\''] ['\''] (Text.replaceAll ['\\', '\\'] ['\\'] text)

/-- A table of strings. -/
structure Strings where
  name : List Char
  strings : List (List Char)
  /-- The number of characters that its declaration takes up. -/
  length : Nat

/-- The table of strings that the text starts to declare. -/
def declared? (cs : List Char) : Option Strings := do
  let behind ← Text.behind? ['_'] (Text.skipSpaces (← Text.behind? "var".toList cs))
  let name := behind.takeWhile Text.isWord
  guard !name.isEmpty
  let behind ← Text.behind? "=[\"".toList (behind.dropWhile Text.isWord)
  let (items, rest) ← Text.first? (Text.behind? "\"];".toList) behind
  return {
    name := '_' :: name
    strings := Text.partsBetween "\",\"".toList items
    length := cs.length - rest.length }

/-- The text with the strings of a table in their places. As many characters as the declaration
has are taken away from its start. -/
def placeStrings (table : Strings) (text : List Char) : List Char :=
  let quoted := table.strings.map fun string => '"' :: string ++ ['"']
  (fillPlaces table.name quoted text).drop table.length

/-- The script that a parcel carries, inside its surroundings; where the parcel has a table of
strings, it stands alone. -/
def unpack (around : Surroundings) (script : List Char) : Unpacking := do
  let parcel ← OptionT.mk (.ok (parcel? script))
  let base ← OptionT.mk (.ok (Base.ofSize? parcel.size))
  let text ← OptionT.lift (fill base parcel.words (unescape parcel.text))
  return match Text.first? declared? text with
    | some (_, table) => placeStrings table text
    | none => around.front ++ text ++ around.rest

end VmScan.Packed.WordTable
