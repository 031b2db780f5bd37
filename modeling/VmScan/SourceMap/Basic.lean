import VmScan.Json.Value

/-!
# Source maps

Where the text of a laid-out script came from.

* `Origin` — a place in a source: its line and column counted from zero, and perhaps a name.
* `Segment` — a column of a generated line, with the place from which the text from there on
  came; a segment may also say that it came from nowhere.
* `Mapping` — the segments of each generated line, in the order in which the map lists them.
* `Mapping.originAt` — the place from which the text at a line and a column came
  (`original_position_for`).

A column with a segment of its own has the last such segment. Any other column is searched by
halving the list of the line's columns, and has the segments of the column that the search ends
behind; in a list in ascending order that is the nearest column to the left.
-/

namespace VmScan.SourceMap

/-- A place in a source. -/
structure Origin where
  source : Json.Value
  line : Int
  column : Int
  name : Option String

/-- A generated column and the place from which the text from there on came. -/
structure Segment where
  column : Int
  origin : Option Origin

/-- The segments of each generated line. -/
structure Mapping where
  lines : List (List Segment)

/-- The last segment at exactly the given column. -/
def lastAt? (segments : List Segment) (column : Int) : Option Segment :=
  (segments.filter (·.column = column)).getLast?

/-- Where halving the range from `low` to `high` ends when it goes left of every element above
the target. -/
def bisect (columns : Array Int) (target : Int) (low high : Nat) : Nat :=
  if low < high then
    let middle := (low + high) / 2
    if target < columns.getD middle 0 then bisect columns target low middle
    else bisect columns target (middle + 1) high
  else low
termination_by high - low

/-- The column behind which the search for a column ends. -/
def columnBefore? (segments : List Segment) (column : Int) : Option Int :=
  let columns := (segments.map (·.column)).toArray
  match bisect columns column 0 columns.size with
  | 0 => none
  | position + 1 => columns[position]?

/-- The segment that holds for a column of a line. -/
def segmentAt? (segments : List Segment) (column : Int) : Option Segment :=
  match lastAt? segments column with
  | some segment => some segment
  | none => (columnBefore? segments column).bind (lastAt? segments)

/-- The place from which the text at a line, counted from one, and a column came. -/
def Mapping.originAt (mapping : Mapping) (line column : Int) : Option Origin :=
  if line < 1 ∨ column < 0 then none
  else do
    let segments ← mapping.lines[(line - 1).toNat]?
    let segment ← segmentAt? segments column
    segment.origin

end VmScan.SourceMap
