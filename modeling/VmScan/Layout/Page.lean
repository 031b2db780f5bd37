import VmScan.Layout.Token

/-!
# Pages of rows

The text that the layout writes is a page of rows. A row knows how far it is indented, so that a
step can be taken away from rows that are already written.

* `Row` — pieces behind an indentation.
* `Page` — the rows, the last of which is being written.
* `Page.text` — the text of a page: a row without pieces is an empty line.
-/

namespace VmScan.Layout

/-! ## Rows -/

/-- How far a row is indented: by steps, then by single blanks. -/
structure Indent where
  steps : Nat := 0
  blanks : Nat := 0
  deriving DecidableEq, Repr, Inhabited

/-- A row. -/
structure Row where
  /-- How far it is indented; a row without indentation keeps its text as it is. -/
  indent : Option Indent := some {}
  /-- The pieces, the last one first. -/
  pieces : List String := []
  deriving DecidableEq, Repr, Inhabited

/-- Whether nothing is written in the row. -/
def Row.isEmpty (row : Row) : Bool :=
  row.pieces.isEmpty

/-- The row with a piece behind the others. -/
def Row.push (row : Row) (piece : String) : Row :=
  { row with pieces := piece :: row.pieces }

/-- The row without the blanks at its end. -/
def Row.trim (row : Row) : Row :=
  { row with pieces := row.pieces.dropWhile (· = " ") }

/-- The row with another indentation; only an empty row changes its indentation. -/
def Row.setIndent (row : Row) (indent : Option Indent) : Row :=
  if row.isEmpty then { row with indent } else row

/-- The row with a step less. -/
def Row.stepBack (row : Row) : Row :=
  { row with indent := row.indent.map fun indent => { indent with steps := indent.steps - 1 } }

/-- How the rows of a page are indented. -/
structure Margin where
  /-- The blanks in front of each row. -/
  base : String
  /-- The blanks that a step stands for. -/
  step : Nat
  deriving DecidableEq, Repr, Inhabited

/-- The text of a row. -/
def Row.text (margin : Margin) (row : Row) : String :=
  let front := match row.indent with
    | some indent => margin.base ++ "".pushn ' ' (indent.steps * margin.step + indent.blanks)
    | none => ""
  if row.isEmpty then "" else front ++ String.join row.pieces.reverse

/-! ## Pages -/

/-- A page. -/
structure Page where
  /-- The rows that are finished. -/
  above : Array Row := #[]
  /-- The row that is being written. -/
  current : Row := {}
  /-- The indentation of the row that is started next. -/
  next : Indent := {}
  /-- Whether a blank parts what is written next from the piece before. -/
  isSpaced : Bool := false
  /-- Whether the script is kept as it is for now. -/
  isRaw : Bool := false
  deriving Inhabited

/-- The number of rows. -/
def Page.size (page : Page) : Nat :=
  page.above.size + 1

/-- Whether nothing is written on the page. -/
def Page.isEmpty (page : Page) : Bool :=
  page.above.isEmpty && page.current.isEmpty

/-- Whether the last row and the one above are empty. -/
def Page.endsBlank (page : Page) : Bool :=
  page.current.isEmpty && page.above.back?.all Row.isEmpty

/-- Whether a line may break: not in front of all text, and behind a break only by force. -/
def Page.breaks (page : Page) (force : Bool) : Bool :=
  !page.isEmpty && (force || !page.current.isEmpty)

/-- The page with a row more. -/
def Page.newRow (page : Page) : Page :=
  { page with above := page.above.push page.current, current := { indent := some page.next } }

/-- The page whose row ends. What is kept as it is ends its rows itself. -/
def Page.endRow (page : Page) : Page :=
  if page.isRaw then page else page.newRow

/-- The page with an indentation for what follows. The first row is never indented. -/
def Page.setIndent (page : Page) (indent : Indent) : Page :=
  { page with
    current := page.current.setIndent (some (if page.above.isEmpty then {} else indent))
    next := indent }

/-- The page with a piece more. -/
def Page.write (page : Page) (piece : String) : Page :=
  let spaced :=
    if page.isSpaced && !page.current.isEmpty then page.current.push " " else page.current
  { page with current := spaced.push piece, isSpaced := false }

/-- The page with a piece more, and what stands in front of it in the script, as it is. -/
def Page.writeRaw (page : Page) (space : Space) (piece : String) : Page :=
  let page := Nat.repeat Page.newRow space.newlines page
  let row := (page.current.setIndent none).push (String.ofList space.blanks)
  { page with current := row.push piece, isSpaced := false }

/-- The page with a blank, or none, in front of what is written next. -/
def Page.space (page : Page) (isSpaced : Bool) : Page :=
  { page with isSpaced }

/-- The page whose rows from the given one on stand a step less far in. -/
def Page.stepBackFrom (page : Page) (start : Nat) : Page :=
  let current := if start < page.size then page.current.stepBack else page.current
  let rows := List.range' start (page.above.size - start)
  { page with current, above := rows.foldl (·.modify · Row.stepBack) page.above }

/-- The page without the blanks and the empty rows at its end. -/
def Page.trim (page : Page) : Page :=
  let current := page.current.trim
  if current.isEmpty then
    match _h : page.above.back? with
    | some row => Page.trim { page with above := page.above.pop, current := row }
    | none => { page with current }
  else { page with current }
termination_by page.above.size
decreasing_by
  have : page.above.size ≠ 0 := by
    intro h
    simp [Array.eq_empty_of_size_eq_zero h] at _h
  simp only [Array.size_pop]
  omega

/-- The text of a page, without the empty rows and the line ends at its end. -/
def Page.text (margin : Margin) (page : Page) : String :=
  let page := page.trim
  let last := match page.current.pieces with
    | "" :: pieces => { page.current with pieces }
    | piece :: pieces =>
      { page.current with
        pieces := String.ofList (piece.toList.reverse.dropWhile (· = '\n')).reverse :: pieces }
    | [] => page.current
  "\n".intercalate ((page.above.push last).toList.map (Row.text margin))

end VmScan.Layout
