import VmScan.Layout.Cut
import VmScan.Layout.Fault
import VmScan.Layout.Token

/-!
# Reading tokens for laying out

* `readToken` — the token or note at the start of a text that is not empty. A slash starts a
  regular expression where the token before it cannot end an operand.
* `scan` — the tokens of a script, with the notes in front of each.
-/

namespace VmScan.Layout

open VmScan.Script

/-! ## What has been read -/

/-- What the reading of a token depends on. -/
structure Context where
  /-- The token before. -/
  before : Face := ⟨.start, ""⟩
  /-- The groups and blocks that are open, the innermost first, with the token before each. -/
  opened : List (String × Face) := []
  /-- The token before the group that the token before closes, if it closes one. -/
  beforeGroup : Option Face := none
  /-- Whether the script stands in a comment of markup. -/
  inMarkup : Bool := false

/-- Whether a slash starts a regular expression. Behind a parenthesis that hangs on what stands in
front of the group. -/
def Context.allowsPattern (context : Context) : Except Fault Bool :=
  match context.before.kind with
  | .keyword =>
    .ok (["return", "case", "throw", "else", "do", "typeof", "yield"].contains context.before.text)
  | .closeGroup =>
    if context.before.text ≠ ")" then .ok false
    else match context.beforeGroup with
      | some face => .ok (face.isAnyKeyword ["if", "while", "for"])
      | none => .error .slashBehindLone
  | .word | .literal | .dot => .ok false
  | _ => .ok true

/-- The bracket that closes another. -/
def closingOf? : String → Option String
  | "(" => some ")"
  | "[" => some "]"
  | "\x7b" => some "\x7d"
  | _ => none

/-- The context behind a token. -/
def Context.after (context : Context) (face : Face) : Context :=
  let plain := { context with before := face, beforeGroup := none }
  match face.kind with
  | .openGroup | .openBrace => { plain with opened := (face.text, context.before) :: plain.opened }
  | .closeGroup | .closeBrace =>
    match context.opened with
    | (bracket, before) :: outer =>
      if closingOf? bracket = some face.text then
        { plain with opened := outer, beforeGroup := some before }
      else plain
    | [] => plain
  | _ => plain

/-- What a comment of markup starts with. -/
def markupStart : List Char := "<!--".toList

/-- What a comment of markup ends with. -/
def markupEnd : List Char := "-->".toList

/-- The context behind a note. -/
def Context.afterNote (context : Context) (text : List Char) : Context :=
  if markupStart.isPrefixOf text then { context with inMarkup := true }
  else if text = markupEnd then { context with inMarkup := false }
  else context

/-! ## Tokens -/

/-- A token or note without what stands in front of it. -/
inductive Piece where
  | token (face : Face)
  | note (kind : NoteKind) (text : List Char) (directives : Option Directives)

/-- A piece with the text behind it. -/
abbrev Read := Piece × List Char

/-- The token with the given text. -/
def tokenRead (kind : Kind) (cut : Cut) : Read :=
  (.token ⟨kind, String.ofList cut.1⟩, cut.2)

/-- The note with the given text. -/
def noteRead (kind : NoteKind) (cut : Cut) : Read :=
  (.note kind cut.1 none, cut.2)

/-- The kind of a word. -/
def wordKind (before : Face) (text : String) : Kind :=
  if before.kind = .dot || before.isAnyKeyword ["set", "get"] || !keywords.contains text then .word
  else if (text = "in" || text = "of") && (before.kind = .word || before.kind = .literal) then
    .operator
  else .keyword

/-- The word or number at the start, if there is one. -/
def readWord? (context : Context) (cs : List Char) : Option Read :=
  match cutWord cs with
  | (c :: word, rest) =>
    some (tokenRead (wordKind context.before (String.ofList (c :: word))) (c :: word, rest))
  | ([], _) =>
    match cutNumber cs with
    | (c :: number, rest) => some (tokenRead .word (c :: number, rest))
    | ([], _) => none

/-- The token of a single character, if it is one. -/
def singleKind? : Char → Option Kind
  | '(' | '[' => some .openGroup
  | ')' | ']' => some .closeGroup
  | '\x7b' => some .openBrace
  | '\x7d' => some .closeBrace
  | ';' => some .semicolon
  | ',' => some .comma
  | _ => none

/-- Whether the text behind a dot lets it be a token of its own. -/
def isLoneDot : List Char → Bool
  | c :: _ => !Text.isDecimalDigit c && c ≠ '.'
  | [] => false

/-- The kind of an operator. -/
def operatorKind (text : String) : Kind :=
  if text = "=" then .equals else .operator

/-- The operator at the start, or a note of one character. -/
def readOperator (c : Char) (cs : List Char) : Read :=
  match c, cs with
  | '?', '.' :: rest =>
    if rest.head?.any Text.isDecimalDigit then tokenRead .operator (['?'], cs)
    else tokenRead .dot (['?', '.'], rest)
  | _, _ =>
    match operators.find? (·.toList.isPrefixOf (c :: cs)) with
    | some text => tokenRead (operatorKind text) (text.toList, (c :: cs).drop text.length)
    | none => noteRead .stray ([c], cs)

/-- The block comment behind its first two characters. A comment that tells the layout to pass over
what follows holds that as well. -/
def readBlockNote (cs : List Char) : Read :=
  let (text, rest) := (cutBlockNote cs).behind ['/', '*']
  let directives := directives? text
  let (text, rest) :=
    if directives.any (·.value? "ignore" = some "start") then (cutIgnored rest).behind text
    else (text, rest)
  (.note .block (unifyTerminators text) directives, rest)

/-- The literal that starts with the given character. -/
def readLiteral (c : Char) (part : Delimiter) (cs : List Char) : Read :=
  let (body, rest) := cutLiteral [part] cs
  tokenRead .literal (unifyTerminators (c :: body), rest)

/-- What starts with a slash. -/
def readSlash (context : Context) : List Char → Except Fault Read
  | '*' :: rest => .ok (readBlockNote rest)
  | '/' :: rest => .ok (noteRead .line ((cutLine rest).behind ['/', '/']))
  | cs => do
    if ← context.allowsPattern then
      return tokenRead .literal ((cutPattern false cs).behind ['/'])
    else return readOperator '/' cs

/-- What starts with a number sign and is no word, if it is there: a line for the system at the
start of the script, a line that includes a file, the label of a value that holds itself, and a
brace. -/
def readSharp? (context : Context) (cs : List Char) : Option Read :=
  let isLine := cs.head? = some '!' && context.before.kind = .start
    || "include".toList.isPrefixOf cs
  if isLine then some (noteRead .stray (cutWholeLine ('#' :: cs)))
  else if cs.head?.any Text.isAsciiDigit then
    some (tokenRead .word ((cutSharp cs).behind ['#']))
  else if cs.head? = some '\x7b' then some (tokenRead .openBrace (['#', '\x7b'], cs.drop 1))
  else none

/-- The comment of markup at the start, if there is one: its start, with the line, in front of all
tokens; or its end. -/
def readMarkup? (context : Context) (cs : List Char) : Option Read :=
  if context.before.kind = .start && markupStart.isPrefixOf cs then
    some (noteRead .line (cutLine cs))
  else if context.inMarkup && markupEnd.isPrefixOf cs then
    some (noteRead .line (markupEnd, cs.drop markupEnd.length))
  else none

/-- What starts with the character, if that stands in no word. -/
def readSign (context : Context) (c : Char) (cs : List Char) : Except Fault Read :=
  match singleKind? c with
  | some kind => .ok (tokenRead kind ([c], cs))
  | none =>
    if c = '.' && isLoneDot cs then .ok (tokenRead .dot (['.'], cs))
    else if c = '/' then readSlash context cs
    else .ok (readOperator c cs)

/-- The token or note that starts with the character. -/
def readToken (context : Context) (c : Char) (cs : List Char) : Except Fault Read :=
  let special? := match c with
    | '#' => readSharp? context cs
    | '<' | '-' => readMarkup? context (c :: cs)
    | '\'' | '"' => some (readLiteral c (.quote c) cs)
    | '\x60' => some (readLiteral c .template cs)
    | _ => none
  match special? <|> readWord? context (c :: cs) with
  | some read => .ok read
  | none => readSign context c cs

/-! ## Scripts -/

/-- What stands in front of a token, given the gap there. -/
def spaceOf (gap : List Char) : Space where
  newlines := terminatorCount gap
  blanks := (gap.reverse.takeWhile (!isLineTerminator ·)).reverse

/-- The tokens of a text, with the notes that have been read in front of the first. Each token and
each note takes up a character at least, so that as much fuel as there are characters lasts. -/
def scanFrom (fuel : Nat) (context : Context) (notes : List Note) (cs : List Char) :
    Except Fault (List Token) := do
  let space := spaceOf (cs.takeWhile isGap)
  match fuel, cs.dropWhile isGap with
  | fuel + 1, c :: rest =>
    match ← readToken context c rest with
    | (.token face, behind) =>
      let token : Token := { face, space, notes }
      return token :: (← scanFrom fuel (context.after face) [] behind)
    | (.note kind text directives, behind) =>
      let note : Note := { kind, text, directives, space }
      scanFrom fuel (context.afterNote text) (notes ++ [note]) behind
  | _, _ => return [{ face := ⟨.finish, ""⟩, space, notes }]

/-- The tokens of a script; the last one is its end. -/
def scan (script : String) : Except Fault (List Token) :=
  scanFrom script.length {} [] script.toList

end VmScan.Layout
