import VmScan.Layout.Writer
import VmScan.Text.Digit

/-!
# The rules of the layout

A rule for each kind of token: which frames it opens or closes, where lines break around it, where
blanks stand.

* Braces stand at the end of the line that opens them, and what they hold is indented by a step.
* Each statement and each property of an object starts a line; a declaration breaks behind each
  variable that has a value.
* Operators stand between blanks; a line that the script breaks at an operator breaks behind it.
* Empty lines of the script are kept.

`Writer.place` writes a token by the rule of its kind.
-/

namespace VmScan.Layout.Writer

/-- Writes the text of a token. -/
def writeToken (w : Writer) (token : Token) : Writer :=
  w.write token.space token.face.text

/-! ## Brackets -/

/-- Whether the token before is the star of a generator. -/
def isBehindStar (w : Writer) : Bool :=
  w.frame.last.text = "*" && (["function", "yield"].contains w.secondLast
    || w.frame.mode = .object && ["\x7b", ","].contains w.secondLast)

/-- Opens the frame of a bracket that is written. -/
def openGroup (w : Writer) (token : Token) (mode : Mode) : Writer :=
  ((w.writeToken token).opened mode).stepIn

/-- Makes room for a bracket that opens a list. -/
def spaceList (w : Writer) : Writer :=
  let last := w.frame.last
  let w :=
    if w.frame.mode = .array
        && (last.text = "[" || last.text = "," && ["]", "\x7d"].contains w.secondLast) then
      w.breakLine
    else w
  if [.openGroup, .closeGroup, .word, .operator, .dot].contains w.frame.last.kind then w
  else w.spaced

/-- What the frame of a parenthesis stands for. -/
def groupMode (last : Face) : Mode :=
  if last.isKeyword "for" then .loopHead
  else if last.isAnyKeyword ["if", "while", "switch"] then .condition
  else .expression

/-- Makes room for a parenthesis that opens. -/
def spaceGroup (w : Writer) (token : Token) : Writer :=
  let last := w.frame.last
  let w := match last.kind with
    | .keyword =>
      if groupMode last ≠ .expression || ["await", "async"].contains w.frame.lastWord
          || lineStarters.contains last.text || last.text = "catch" then
        w.spaced
      else w
    | .equals | .operator => if w.startsValue then w else w.keepBreak token
    | .word => w.spaced false
    | _ => w.keepBreak token
  if last.kind = .keyword && ["function", "typeof"].contains w.frame.lastWord || w.isBehindStar then
    w.spaced false
  else w

/-- Writes a bracket that opens. -/
def placeOpenGroup (w : Writer) (token : Token) : Writer :=
  let w := w.enter token
  let last := w.frame.last
  if token.face.text = "[" && (last.kind = .word || last.text = ")") then
    w.openGroup token .expression
  else
    let isList := token.face.text = "["
    let w := if isList then w.spaceList else w.spaceGroup token
    let last := w.frame.last
    let w :=
      if last.text = ";" || last.kind = .openBrace then w.breakLine
      else if [.closeGroup, .openGroup, .closeBrace, .comma].contains last.kind
          || last.text = "." then
        w.keepBreak token
      else w
    w.openGroup token (if isList then .array else groupMode last)

/-- Writes a bracket that closes. Behind the condition of a `do` the statement may end. -/
def placeCloseGroup (w : Writer) (token : Token) : Writer :=
  let w := w.closeStatements.lead token
  let w :=
    if w.frame.spansLines then
      w.keepBreak token (token.face.text = "]" && w.frame.mode = .array)
    else w
  let w := (w.stepOut.writeToken token).closed
  let w := w.tightened w.previous
  if w.frame.hasDoWhile && w.previous.mode = .condition then
    { w with previous := { w.previous with mode := .expression } }.withFrame fun frame =>
      { frame with hasDo := false, hasDoWhile := false }
  else w

/-! ## Braces -/

/-- Whether the two tokens behind a brace start a list of properties. -/
def startsProperties (first second : Face) : Bool :=
  [":", ","].contains second.text && [.literal, .word, .keyword].contains first.kind
    || ["get", "set", "..."].contains first.text && [.word, .keyword].contains second.kind

/-- Whether a brace behind the token opens an object. -/
def precedesObject (last : Face) : Bool :=
  [.equals, .openGroup, .comma, .operator].contains last.kind
    || last.isAnyKeyword ["return", "throw", "import", "default"]

/-- What a brace opens. -/
def braceMode (w : Writer) : Mode :=
  let frame := w.frame
  if frame.lastWord = "switch" && frame.last.kind = .closeGroup || frame.inLabelled then .block
  else match w.ahead with
    | first :: second :: _ =>
      if startsProperties first.face second.face then
        let isClass := ["class", "interface"].contains w.secondLast
        if isClass && !([":", ","].contains second.face.text) then .block else .object
      else if frame.last.kind = .operator && frame.last.text = "=>" then .block
      else if precedesObject frame.last then .object
      else .block
    | _ =>
      if precedesObject frame.last && frame.last.text ≠ "=>" then .object else .block

/-- Writes a brace that opens. -/
def placeOpenBrace (w : Writer) (token : Token) : Writer :=
  let w := w.lead token
  let opensSwitch := w.frame.lastWord = "switch" && w.frame.last.kind = .closeGroup
  let w := (w.opened w.braceMode).withFrame fun frame => { frame with isSwitch := opensSwitch }
  let isEmpty := w.ahead.head?.any fun token =>
    token.notes.isEmpty && token.face.text = "\x7d"
  let last := w.frame.last
  let w := match last.kind with
    | .operator | .openGroup => w
    | .openBrace | .semicolon => w.breakLine
    | _ => w.spaced
  let w := (w.writeToken token).stepIn
  if isEmpty then w else w.breakLine

/-- Writes a brace that closes. -/
def placeCloseBrace (w : Writer) (token : Token) : Writer :=
  let w := (w.lead token).closeStatements
  let w := if w.frame.last.kind = .openBrace then w else w.breakLine
  w.closed.writeToken token

/-! ## Words -/

/-- The kind that a word has where it stands. -/
def wordKindHere (w : Writer) (face : Face) : Kind :=
  if face.isAnyKeyword ["set", "get"] && w.frame.mode ≠ .object then .word
  else if face.isKeyword "import" && ["(", "."].contains w.next.text then .word
  else if face.isAnyKeyword ["as", "from"] && !w.frame.imports then .word
  else if face.kind = .keyword && w.frame.mode = .object && w.next.text = ":" then .word
  else face.kind

/-- Ends the statement before a word, or opens the one that it starts. -/
def enterWord (w : Writer) (token : Token) : Writer :=
  let last := w.frame.last
  if w.startsStatement token then
    let declares := last.isAnyKeyword ["var", "let", "const"] && token.face.kind = .word
    (w.openStatement token).withFrame fun frame => { frame with declares }
  else
    let isOnNewLine := token.newlines > 0 && !w.frame.mode.isExpression
      && (last.kind ≠ .operator || ["--", "++"].contains last.text) && last.kind ≠ .equals
    if isOnNewLine then (w.lead token).breakLine else w.lead token

/-- Ends an `if` that the word does not continue. -/
def continueIf (w : Writer) (face : Face) : Writer :=
  if !w.frame.hasIf then w
  else if !w.frame.hasElse && face.isKeyword "else" then
    w.withFrame fun frame => { frame with hasElse := true }
  else w.closeStatements.withFrame fun frame => { frame with hasIf := false }

/-- Writes a label of a `switch`. -/
def placeLabel (w : Writer) (token : Token) : Writer :=
  let w := w.breakLine
  let w := if !w.frame.labelsBlock && w.frame.inLabelled then w.stepOut else w
  (w.withFrame fun frame => { frame with inLabelled := false }).writeToken token
    |>.withFrame fun frame => { frame with inLabel := true }

/-- The writer that remembers a word as the last one. -/
def remember (w : Writer) (face : Face) : Writer :=
  w.withFrame fun frame => { frame with lastWord := face.text }

/-- Writes the word that starts a function. An empty line parts a function from the statement
before. -/
def placeFunction (w : Writer) (token : Token) : Writer :=
  let last := w.frame.last
  let startsAfresh := ["\x7d", ";"].contains last.text
    || w.page.current.isEmpty && last.kind ≠ .operator
      && !(["(", "[", "\x7b", ":", "=", ","].contains last.text)
  let w :=
    if startsAfresh && !w.page.endsBlank && token.notes.isEmpty then w.breakLine.breakLine false true
    else w
  let last := w.frame.last
  let w :=
    if last.kind = .keyword || last.kind = .word then
      if last.isAnyKeyword (["get", "set", "new", "export"] ++ restrictedWords)
          || last.isKeyword "default" && w.secondLast = "export" || last.text = "declare" then
        w.spaced
      else w.breakLine
    else if last.kind = .operator || last.text = "=" then w.spaced
    else if !w.frame.spansLines && (w.frame.mode.isExpression || w.frame.mode = .array) then w
    else w.breakLine
  (w.writeToken token).remember token.face

/-- How a word is parted from what stands before it. -/
inductive Gap where
  | none
  | blank
  | newline
  deriving DecidableEq, Repr

/-- How the token before parts a word from it. -/
def gapBehind (w : Writer) (face : Face) : Gap :=
  match w.frame.last.kind with
  | .closeBrace =>
    if face.isAnyKeyword ["else", "catch", "finally", "from"] then .blank else .newline
  | .semicolon =>
    if w.frame.mode = .block then .newline
    else if w.frame.mode.isExpression then .blank
    else .none
  | .literal | .openBrace | .closeGroup => .newline
  | .keyword | .word => .blank
  | _ => if w.isBehindStar then .blank else .none

/-- How a word is parted from the token before. -/
def gapBefore (w : Writer) (face : Face) : Gap :=
  if face.isAnyKeyword lineStarters && w.frame.last.text ≠ ")" then
    if ["else", "export"].contains w.frame.last.text then .blank else .newline
  else w.gapBehind face

/-- Puts a word that continues a block behind the brace that closes it. -/
def joinBlock (w : Writer) : Writer :=
  if w.frame.last.kind = .closeBrace && w.previous.mode = .block then
    let w := w.withPage Page.trim
    let w := if w.page.current.pieces.head? = some "\x7d" then w else w.breakLine
    w.spaced
  else w.breakLine

/-- Makes room for a word that starts a line. -/
def spaceLine (w : Writer) (face : Face) : Writer :=
  let last := w.frame.last
  let declares := face.isAnyKeyword ["var", "let", "const"]
  if last.isAnyKeyword specialWords || last.text = "declare" && declares then w.spaced
  else if last.kind = .closeGroup then
    if face.isAnyKeyword lineStarters && last.text ≠ ")" then w.breakLine else w
  else if last.text = ":" || last.kind = .openGroup && declares then w
  else w.breakLine

/-- Makes room for a word. -/
def spaceWord (w : Writer) (face : Face) : Writer :=
  let gap := w.gapBefore face
  let last := w.frame.last
  let continues := last.kind = .closeBrace
    && face.isAnyKeyword ["else", "catch", "finally", "from"]
  let w := if continues || last.kind = .closeGroup then w.spaced else w
  let w :=
    if face.isAnyKeyword ["else", "catch", "finally"] then w.joinBlock
    else if gap = .newline then w.spaceLine face
    else if w.frame.spansLines && w.frame.mode = .array && last.text = ","
        && w.secondLast = "\x7d" then
      w.breakLine
    else if gap = .blank then w.spaced
    else w
  if w.before.kind = .word || w.before.kind = .keyword then w.spaced else w

/-- Remembers what a keyword opens. -/
def noteKeyword (w : Writer) (face : Face) : Writer :=
  w.withFrame fun frame =>
    if face.isKeyword "do" then { frame with hasDo := true }
    else if face.isKeyword "if" then { frame with hasIf := true }
    else if face.isKeyword "import" then { frame with imports := true }
    else if face.isKeyword "from" then { frame with imports := false }
    else frame

/-- Writes a word that is neither a label nor `function`. -/
def placePlainWord (w : Writer) (token : Token) : Writer :=
  (((w.spaceWord token.face).writeToken token).remember token.face).noteKeyword token.face

/-- Writes a word behind which no `while` is missing. -/
def placeSettledWord (w : Writer) (token : Token) : Writer :=
  let w := w.continueIf token.face
  if w.frame.isSwitch && token.face.isAnyKeyword ["case", "default"] then w.placeLabel token
  else
    let last := w.frame.last
    let isSigned := ["+", "-"].contains last.text && w.secondLast = ":" && w.parent.mode = .object
    let w :=
      if [.comma, .openGroup, .equals, .operator].contains last.kind && !w.startsValue
          && !isSigned then
        w.keepBreak token
      else w
    if token.face.isKeyword "function" then w.placeFunction token else w.placePlainWord token

/-- Writes a word. Behind the statement of a `do`, its `while` stays on the line. -/
def placeWord (w : Writer) (token : Token) : Writer :=
  let w := w.enterWord token
  if w.frame.hasDo && !w.frame.hasDoWhile then
    if token.face.isKeyword "while" then
      ((w.spaced.writeToken token).spaced).withFrame fun frame => { frame with hasDoWhile := true }
    else
      (w.breakLine.withFrame fun frame => { frame with hasDo := false }).placeSettledWord token
  else w.placeSettledWord token

/-! ## Signs -/

/-- Writes a semicolon. -/
def placeSemicolon (w : Writer) (token : Token) : Writer :=
  let w := if w.startsStatement token then (w.openStatement token).spaced false else w.lead token
  (w.endStatements.withFrame fun frame => { frame with imports := false }).writeToken token

/-- Makes room for a literal. -/
def spaceLiteral (w : Writer) (token : Token) : Writer :=
  let isTemplate := token.face.text.startsWith "\x60"
  match w.frame.last.kind with
  | .keyword | .word => w.spaced
  | .comma | .openGroup | .equals | .operator =>
    if w.startsValue then w else w.keepBreak token
  | kind =>
    if isTemplate && kind = .closeGroup && token.newlines = 0 then w.spaced else w.breakLine

/-- Writes a literal. A template right behind what it is a part of stays there. -/
def placeLiteral (w : Writer) (token : Token) : Writer :=
  let isTagged := token.face.text.startsWith "\x60" && token.space = {}
    && (w.before.text = ")" || w.frame.last.kind = .word)
  let w :=
    if isTagged then w
    else if w.startsStatement token then (w.openStatement token).spaced
    else (w.lead token).spaceLiteral token
  w.writeToken token

/-- Writes an equals sign. -/
def placeEquals (w : Writer) (token : Token) : Writer :=
  let w := (w.enter token).withFrame fun frame =>
    { frame with assigns := frame.assigns || frame.declares }
  (w.spaced.writeToken token).spaced

/-- Writes a comma. The next variable starts a line if this one has a value, and the next property
does. -/
def placeComma (w : Writer) (token : Token) : Writer :=
  let w := ((w.lead token true).writeToken token).spaced
  if w.frame.declares then
    let w' := w.withFrame fun frame => { frame with assigns := false }
    if w.frame.assigns && !w.parent.mode.isExpression then w'.breakLine true else w'
  else if w.frame.mode = .object then w.breakLine
  else if w.frame.mode = .statement && w.parent.mode = .object then w.closed.breakLine
  else w

/-- Writes a dot. -/
def placeDot (w : Writer) (token : Token) : Writer :=
  let w := w.enter token true
  let last := w.frame.last
  let isNumber := !last.text.isEmpty && last.text.toList.all Text.isAsciiDigit
  let w := if isNumber then w.spaced else w
  let w := if last.isAnyKeyword specialWords then w.spaced false else w.keepBreak token
  w.writeToken token

/-! ## Operators -/

/-- Whether the operator is the star of a generator. -/
def isStar (last face : Face) : Bool :=
  face.text = "*" && (last.isAnyKeyword ["function", "yield"]
    || [.openBrace, .comma, .closeBrace, .semicolon].contains last.kind)

/-- Whether the operator is the sign of what follows. -/
def isSign (last face : Face) : Bool :=
  ["+", "-"].contains face.text
    && ([.openBrace, .openGroup, .equals, .operator].contains last.kind
      || lineStarters.contains last.text || last.text = ",")

/-- Writes the colon of a label; what the label stands for is indented, unless it is a block. -/
def placeLabelColon (w : Writer) (token : Token) : Writer :=
  let w := (w.writeToken token).withFrame fun frame =>
    { frame with inLabel := false, inLabelled := true }
  let labelsBlock := w.next.kind = .openBrace
  let w := if labelsBlock then w.spaced else w.stepIn.breakLine
  w.withFrame fun frame => { frame with labelsBlock }

/-- Breaks the line before a step or a negation as the script does. -/
def breakBeforeUnary (w : Writer) (token : Token) : Writer :=
  if token.newlines > 0 && ["--", "++", "~"].contains token.face.text then
    let isForced := w.frame.last.isAnyKeyword specialWords
    let w := if isForced && (w.previous.hasIf || w.previous.hasElse) then w.closed else w
    w.breakLine true isForced
  else w

/-- Writes an operator with one operand. -/
def placeUnary (w : Writer) (token : Token) : Writer :=
  let text := token.face.text
  let steps := ["--", "-", "++", "+"]
  let w :=
    if w.frame.last.kind = .comma || w.frame.last.kind = .openGroup then w.keepBreak token else w
  let w := w.breakBeforeUnary token
  let last := w.frame.last
  let spaceBefore := match last.kind with
    | .keyword => true
    | .closeGroup => !(last.text = "]" && ["--", "++"].contains text)
    | .operator => steps.contains text && steps.contains last.text
    | _ => last.text = ";" && w.frame.mode.isExpression
  let spaceAfter := last.kind = .operator && ["-", "+"].contains text
    && ["--", "++"].contains last.text
  let w :=
    if (w.frame.mode = .block || w.frame.mode = .statement) && ["\x7b", ";"].contains last.text then
      w.breakLine
    else w
  ((w.spaced (w.page.isSpaced || spaceBefore)).writeToken token).spaced spaceAfter

/-- Writes an operator that is no colon of a label; the token before it is given. -/
def placeOperatorBehind (w : Writer) (token : Token) (last : Face) : Writer :=
  let text := token.face.text
  let isConditional := text = ":" && w.frame.openConditionals > 0
  let w := w.withFrame fun frame =>
    if isConditional then { frame with openConditionals := frame.openConditionals - 1 }
    else if text = "?" then { frame with openConditionals := frame.openConditionals + 1 }
    else frame
  if isStar last token.face then
    let followsName := w.next.kind = .word || w.next.kind = .keyword
    ((w.keepBreak token).writeToken token).spaced followsName
  else if isSign last token.face then w.placeUnary token
  else if positionable.contains text then
    let w := (w.spaced (text ≠ ":" || isConditional)).writeToken token
    (if text ≠ ":" || isConditional then w.keepBreak token else w).spaced
  else if text = "..." then
    let w := w.keepBreak token
    ((w.spaced (w.page.isSpaced || w.frame.last.kind = .openBrace)).writeToken token).spaced false
  else if ["--", "++", "!", "~"].contains text then w.placeUnary token
  else (w.spaced.writeToken token).spaced

/-- Writes an operator. -/
def placeOperator (w : Writer) (token : Token) : Writer :=
  let text := token.face.text
  let before := w.frame.last
  let w := w.enter token (!isStar before token.face)
  let last := w.frame.last
  if text = "*" && last.kind = .dot || text = "::" || ["-", "+"].contains text && w.startsValue then
    w.writeToken token
  else
    let w := if last.kind = .operator then w.keepBreak token else w
    if text = ":" && w.frame.inLabel then w.placeLabelColon token
    else w.placeOperatorBehind token before

/-! ## All kinds -/

/-- Writes a token by the rule of its kind. -/
def placeByKind (w : Writer) (token : Token) : Writer :=
  match token.face.kind with
  | .openGroup => w.placeOpenGroup token
  | .closeGroup => w.placeCloseGroup token
  | .openBrace => w.placeOpenBrace token
  | .closeBrace => w.placeCloseBrace token
  | .word | .keyword => w.placeWord token
  | .semicolon => w.placeSemicolon token
  | .literal => w.placeLiteral token
  | .equals => w.placeEquals token
  | .operator => w.placeOperator token
  | .comma => w.placeComma token
  | .dot => w.placeDot token
  | .start | .finish => w.closeStatements.lead token

/-- Writes a token, with the tokens ahead, and remembers it. -/
def place (w : Writer) (token : Token) (ahead : List Token) : Writer :=
  let kind := if token.face.kind = .keyword then wordKindHere { w with ahead } token.face
    else token.face.kind
  let token := { token with face := { token.face with kind } }
  let w := { w with ahead }.placeByKind token
  { w with
    secondLast := w.frame.last.text
    frame := { w.frame with last := token.face }
    before := token.face }

/-- Writes all tokens. -/
def placeAll (w : Writer) : List Token → Writer
  | [] => w
  | token :: ahead => (w.place token ahead).placeAll ahead

end VmScan.Layout.Writer
