import VmScan.Layout.Frame
import VmScan.Layout.Page
import VmScan.Text.Blank
import VmScan.Text.Lines

/-!
# The writer of a layout

What the layout remembers between two tokens, and the moves that its rules are made of: opening
and closing frames, breaking lines, writing a token.

* `Writer` — the page with the open frames.
* `Writer.breakLine` — a break, which ends statements unless they go on.
* `Writer.startsStatement` — the places at which a statement starts.
-/

namespace VmScan.Layout

/-- The page with the open frames. -/
structure Writer where
  page : Page := {}
  /-- The innermost open frame. -/
  frame : Frame := {}
  /-- The frames around it, the innermost first. -/
  outer : List Frame := []
  /-- The frame that was innermost before the last one opened or closed. -/
  previous : Frame := {}
  /-- The token before. -/
  before : Face := ⟨.start, ""⟩
  /-- The text of the token before the last one of the frame. -/
  secondLast : String := ""
  /-- The tokens that follow. -/
  ahead : List Token := []
  deriving Inhabited

namespace Writer

/-- The frame around the innermost one. -/
def parent (w : Writer) : Frame :=
  w.outer.headD {}

/-- What follows. -/
def next (w : Writer) : Face :=
  (w.ahead.head?.map (·.face)).getD default

/-- The writer whose innermost frame is changed. -/
def withFrame (w : Writer) (change : Frame → Frame) : Writer :=
  { w with frame := change w.frame }

/-- The writer whose page is changed. -/
def withPage (w : Writer) (change : Page → Page) : Writer :=
  { w with page := change w.page }

/-- The writer with a blank in front of what is written next. -/
def spaced (w : Writer) (isSpaced : Bool := true) : Writer :=
  w.withPage (·.space isSpaced)

/-- Indents what follows as the innermost frame is indented. -/
def realigned (w : Writer) : Writer :=
  w.withPage (·.setIndent ⟨w.frame.indent, w.frame.alignment⟩)

/-! ## Frames -/

/-- Indents the innermost frame by a step. -/
def stepIn (w : Writer) : Writer :=
  (w.withFrame fun frame => { frame with indent := frame.indent + 1 }).realigned

/-- Takes a step from the innermost frame, if it has more of them than the one around it. -/
def stepOut (w : Writer) : Writer :=
  if w.parent.indent < w.frame.indent then
    (w.withFrame fun frame => { frame with indent := frame.indent - 1 }).realigned
  else w

/-- Opens a frame. -/
def opened (w : Writer) (mode : Mode) : Writer :=
  realigned { w with
    frame := w.frame.within mode w.page.current.isEmpty w.page.size
    outer := w.frame :: w.outer
    previous := w.frame }

/-- Takes a step from the rows of a frame that fits into the row it starts in. -/
def tightened (w : Writer) (frame : Frame) : Writer :=
  if frame.spansLines || frame.mode = .loopHead || frame.mode = .condition then w
  else w.withPage (·.stepBackFrom frame.firstRow)

/-- Closes the innermost frame, inside the given ones. -/
def closedInto (w : Writer) (frame : Frame) (outer : List Frame) : Writer :=
  let w := if w.frame.mode = .statement then w.tightened w.frame else w
  realigned { w with frame, outer, previous := w.frame }

/-- Closes the innermost frame; the whole script stays open. -/
def closed (w : Writer) : Writer :=
  match w.outer with
  | frame :: outer => w.closedInto frame outer
  | [] => w

/-- Closes the innermost frames that are statements and do not stay. -/
def closeStatementsUnless (w : Writer) (stays : Frame → Bool) : Writer :=
  go w w.outer
where
  /-- Closes them, inside the given frames. -/
  go (w : Writer) : List Frame → Writer
    | [] => w
    | frame :: outer =>
      if w.frame.mode = .statement && !stays w.frame then go (w.closedInto frame outer) outer
      else w

/-- Closes the innermost frames that are statements. -/
def closeStatements (w : Writer) : Writer :=
  w.closeStatementsUnless fun _ => false

/-- Closes the statements that end here: not those that an `else` or a `while` continues. -/
def endStatements (w : Writer) : Writer :=
  w.closeStatementsUnless fun frame => frame.hasIf && w.next.isKeyword "else" || frame.hasDo

/-! ## Lines -/

/-- Whether the token before lets a statement end at a break. -/
def letsEnd (last : Face) : Bool :=
  !([";", ",", "="].contains last.text)
    && (last.kind ≠ .operator || ["--", "++"].contains last.text)

/-- Breaks the line, by force also behind a break. Statements end here unless they go on. -/
def breakLine (w : Writer) (goesOn : Bool := false) (force : Bool := false) : Writer :=
  let w := if !goesOn && letsEnd w.frame.last then w.endStatements else w
  if w.page.breaks force then
    (w.withPage Page.endRow).withFrame fun frame => { frame with spansLines := true }
  else w

/-- The line breaks that are kept between two lines. -/
def mostNewlines : Nat := 32786

/-- Keeps the empty lines in front of a token or note. -/
def keepEmptyLines (w : Writer) (newlines : Nat) (goesOn : Bool) : Writer :=
  if newlines ≤ 1 then w
  else Nat.repeat (·.breakLine goesOn true) (min newlines mostNewlines - 1) (w.breakLine goesOn)

/-- Breaks the line where the script does, or by force. -/
def keepBreak (w : Writer) (token : Token) (isForced : Bool := false) : Writer :=
  if !w.page.current.isEmpty && (token.newlines > 0 || isForced) then w.breakLine true else w

/-- Indents the row that starts here. -/
def startRow (w : Writer) : Writer :=
  if !w.page.current.isEmpty then w
  else if w.page.above.isEmpty then w.realigned
  else w.realigned.withFrame fun frame => { frame with rowIndent := frame.indent }

/-- Writes a piece, or keeps it with what stands in front of it. -/
def write (w : Writer) (space : Space) (piece : String) : Writer :=
  if w.page.isRaw then w.withPage (·.writeRaw space piece)
  else w.startRow.withPage (·.write piece)

/-! ## Notes -/

/-- Writes a piece in a row that it has to start, and breaks the line behind it. -/
def writeRow (w : Writer) (goesOn : Bool) (piece : String) : Writer :=
  (w.startRow.withPage (·.write piece)).breakLine goesOn

/-- Writes a row of a comment as it is. -/
def writeRowAsIs (w : Writer) (goesOn : Bool) (piece : String) : Writer :=
  (w.withPage fun page =>
    { page with current := page.current.setIndent none }.write piece).breakLine goesOn

/-- The writer whose rows are aligned by the given blanks. -/
def aligned (w : Writer) (alignment : Nat) : Writer :=
  w.withFrame fun frame => { frame with alignment }

/-- Whether each row that is not empty starts with a star. -/
def areStarred (rows : List (List Char)) : Bool :=
  rows.all fun row => row.isEmpty || (row.dropWhile Text.isBlank).head? = some '*'

/-- Whether each row that is not blank is indented by the given blanks. -/
def areIndented (blanks : List Char) (rows : List (List Char)) : Bool :=
  rows.all fun row => blanks.isPrefixOf row || row.all Text.isBlank

/-- Writes a comment in rows of its own. Where each further row starts with a star, the stars are
aligned; where each one is indented as far as the first, the rows keep their places to each
other. -/
def writeRows (w : Writer) (note : Note) (goesOn : Bool) : Writer :=
  match Text.splitOn '\n' note.text with
  | [] => w
  | first :: rows =>
    let blanks := note.space.blanks
    let w := (w.breakLine goesOn).writeRow goesOn (String.ofList first)
    let isStarred := areStarred rows
    let isIndented := areIndented blanks rows
    let w := if isStarred && !rows.isEmpty then w.aligned 1 else w
    let writeNext := fun (w : Writer) (row : List Char) =>
      if isStarred then w.writeRow goesOn (String.ofList (row.dropWhile Text.isBlank))
      else if isIndented && blanks.length < row.length then
        w.writeRow goesOn (String.ofList (row.drop blanks.length))
      else w.writeRowAsIs goesOn (String.ofList row)
    let w := rows.foldl writeNext w
    if rows.isEmpty then w else w.aligned 0

/-- Writes a block comment. Its directives may say that the script is kept as it is from here on, or
no longer. -/
def writeBlockNote (w : Writer) (note : Note) (goesOn : Bool) : Writer :=
  let text := String.ofList note.text
  if w.page.isRaw then
    let isRaw := !note.directs "preserve" "end"
    w.withPage fun page => { page.writeRaw note.space text with isRaw }
  else if note.directives.isSome then
    let isRaw := note.directs "preserve" "start"
    let w := (w.breakLine goesOn).write note.space text
    (w.withPage fun page => { page with isRaw }).breakLine true
  else if note.newlines = 0 && !note.text.contains '\n' then
    (w.spaced.write note.space text).spaced
  else w.writeRows note goesOn

/-- Writes a note. -/
def writeNote (w : Writer) (goesOn : Bool) (note : Note) : Writer :=
  let w := w.keepEmptyLines note.newlines goesOn
  let text := String.ofList note.text
  match note.kind with
  | .line =>
    let w := if note.newlines = 0 then w.withPage Page.trim else w.breakLine goesOn
    (w.spaced.write note.space text).breakLine goesOn
  | .block => w.writeBlockNote note goesOn
  | .stray =>
    let w := w.write note.space text
    if note.text.getLast? = some '\n' then w.breakLine goesOn else w

/-- Writes the notes in front of a token and keeps the empty lines there. -/
def lead (w : Writer) (token : Token) (goesOn : Bool := false) : Writer :=
  (token.notes.foldl (·.writeNote goesOn ·) w).keepEmptyLines token.newlines goesOn

/-! ## Statements -/

/-- Whether the value of a property is read: a colon, `get` or `set` stands before. -/
def isAtValue (w : Writer) : Bool :=
  w.frame.last.text = ":" && w.frame.openConditionals = 0
    || w.frame.last.isAnyKeyword ["get", "set"]

/-- Whether a statement is the value of a property. -/
def startsValue (w : Writer) : Bool :=
  w.parent.mode = .object && w.frame.mode = .statement && w.isAtValue

/-- Whether the token before ends what has to be followed by a statement, or a line that starts
one. -/
def startsStatement (w : Writer) (token : Token) : Bool :=
  let last := w.frame.last
  let face := token.face
  last.isAnyKeyword ["var", "let", "const"] && face.kind = .word
    || last.isKeyword "do"
    || !(w.parent.mode = .object && w.frame.mode = .statement)
      && last.isAnyKeyword restrictedWords && token.newlines = 0
    || last.isKeyword "else" && !(face.isKeyword "if" && token.notes.isEmpty)
    || last.kind = .closeGroup && (w.previous.mode = .loopHead || w.previous.mode = .condition)
    || last.kind = .word && w.frame.mode = .block && !w.frame.inLabel
      && !(["--", "++"].contains face.text) && w.secondLast ≠ "function"
      && face.kind ≠ .word && face.kind ≠ .keyword
    || w.frame.mode = .object && w.isAtValue

/-- Opens the statement that the token starts. -/
def openStatement (w : Writer) (token : Token) : Writer :=
  let w := ((w.opened .statement).stepIn).lead token true
  if w.startsValue then w
  else w.keepBreak token (token.face.isAnyKeyword ["do", "for", "if", "while"])

/-- Opens the statement that the token starts, if it starts one. -/
def enter (w : Writer) (token : Token) (goesOn : Bool := false) : Writer :=
  if w.startsStatement token then w.openStatement token else w.lead token goesOn

end Writer

end VmScan.Layout
