import VmScan.Number.Integer
import VmScan.SourceMap.Basic
import VmScan.Text.Lines
import VmScan.Text.Quoted

/-!
# Listings

A script as a listing: each line with its number and, where a source map knows it, the place
from which it came.

* `Line.render` — the written form: the number, right-aligned to five places, the place,
  left-aligned to ten, and the code, with a blank between neighbours. There is none where an integer
  that it shows has too many digits.
* `listing` — all lines of a text (`format_lines`).
* `clampRange` — the nearest proper range of lines (`clamp_line_range`).
* `select` — the lines in a range (`select_line_range`).
* `lineNumber` — the number read back from a written line (`extract_line_number`).
-/

namespace VmScan

/-- One line of a listing. -/
structure Line where
  number : Int
  sourceLine : Option Int
  sourceColumn : Option Int
  code : String
  deriving DecidableEq, Repr

namespace Listing

/-- The text behind enough blanks to fill the width. -/
def padLeft (width : Nat) (text : String) : String :=
  String.ofList (List.replicate (width - text.length) ' ') ++ text

/-- The text with enough blanks behind it to fill the width. -/
def padRight (width : Nat) (text : String) : String :=
  text ++ String.ofList (List.replicate (width - text.length) ' ')

/-- The place from which a line came, where both coordinates are known
(`format_source_position`). -/
def placeText (line column : Option Int) : Except Number.TextFault String :=
  match line, column with
  | some line, some column => do
    let line ← Number.toText line
    let column ← Number.toText column
    return s!"L{line}:{column}"
  | _, _ => .ok ""

end Listing

open Listing in
/-- The written form of a line. -/
def Line.render (line : Line) : Except Number.TextFault String := do
  let place ← placeText line.sourceLine line.sourceColumn
  let number ← Number.toText line.number
  return padLeft 5 number ++ " " ++ padRight 10 place ++ " " ++ line.code

namespace Listing

/-- The line with the given number and code. -/
def lineOf (map : Option SourceMap.Mapping) (number : Nat) (code : String) : Line :=
  let origin := map.bind (·.originAt number 0)
  { number
    sourceLine := origin.map (·.line + 1)
    sourceColumn := origin.map (·.column)
    code }

/-- The lines of a text, numbered from one. -/
def listing (code : String) (map : Option SourceMap.Mapping) : List Line :=
  (Text.lines code).mapIdx fun index text => lineOf map (index + 1) text

/-- The nearest range of lines within `1 … total` that does not end before it starts. -/
def clampRange (first last total : Int) : Int × Int :=
  let first := max 1 (min total first)
  (first, max first (min total last))

/-- The lines of a range, both ends included, after clamping. -/
def select (lines : List Line) (first last : Int) : List Line :=
  let (first, last) := clampRange first last lines.length
  (lines.take last.toNat).drop (first - 1).toNat

/-- Why a written line gives no number. -/
inductive NumberFault where
  | missing (line : String)
  | tooManyDigits (count : Nat)
  deriving DecidableEq, Repr

/-- The message of a fault. -/
def NumberFault.message : NumberFault → String
  | .missing line =>
    "formatted line has no line number: " ++ Text.quoted (String.ofList (line.toList.take 40))
  | .tooManyDigits count => Number.tooManyDigitsMessage count

/-- The number at the start of a written line, behind any blanks. -/
def lineNumber (line : String) : Except NumberFault Nat :=
  match (line.toList.dropWhile Text.isBlank).takeWhile Text.isDecimalDigit with
  | [] => .error (.missing line)
  | digits =>
    match Number.ofDigits digits with
    | .ok n => .ok n
    | .error (.tooManyDigits count) => .error (.tooManyDigits count)
    | .error .malformed => .error (.missing line)

end Listing

end VmScan
