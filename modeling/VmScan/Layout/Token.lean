import VmScan.Layout.Directive

/-!
# Tokens for laying out

A script that is to be laid out anew is read in tokens that say no more than the layout needs.
What is no token is kept as it is.

* `Token` — a token with what stands in front of it: line ends, blanks and notes.
* `Note` — a comment, or a piece that is no token.
* `Token.isKeyword`, `Token.isAnyKeyword` — tests that many rules of the layout share.
-/

namespace VmScan.Layout

/-- The kinds of tokens. -/
inductive Kind where
  | start
  /-- A parenthesis or bracket that opens. -/
  | openGroup
  | closeGroup
  | openBrace
  | closeBrace
  | word
  | keyword
  | semicolon
  | literal
  | equals
  | operator
  | comma
  | dot
  | finish
  deriving DecidableEq, Repr, Inhabited

/-- The kinds of notes. -/
inductive NoteKind where
  | line
  | block
  | stray
  deriving DecidableEq, Repr

/-- What stands right in front of a token or note. -/
structure Space where
  /-- The number of line ends. -/
  newlines : Nat := 0
  /-- The blanks behind the last line end. -/
  blanks : List Char := []
  deriving DecidableEq, Repr, Inhabited

/-- A comment, or a piece that is no token. -/
structure Note where
  kind : NoteKind
  text : List Char
  /-- The directives that it holds, if it holds nothing else. -/
  directives : Option Directives := none
  space : Space := {}
  deriving DecidableEq, Repr

/-- What a token is: its kind and its text. -/
structure Face where
  kind : Kind
  text : String
  deriving DecidableEq, Repr, Inhabited

/-- A token. -/
structure Token where
  face : Face
  space : Space := {}
  /-- The notes in front of it. -/
  notes : List Note := []
  deriving DecidableEq, Repr, Inhabited

/-- The line ends in front of a token. -/
def Token.newlines (token : Token) : Nat :=
  token.space.newlines

/-- The line ends in front of a note. -/
def Note.newlines (note : Note) : Nat :=
  note.space.newlines

/-- Whether a note holds the directive. -/
def Note.directs (note : Note) (name value : String) : Bool :=
  note.directives.any (·.value? name = some value)

/-- Whether a token is the given keyword. -/
def Face.isKeyword (face : Face) (text : String) : Bool :=
  face.kind = .keyword && face.text = text

/-- Whether a token is one of the given keywords. -/
def Face.isAnyKeyword (face : Face) (texts : List String) : Bool :=
  face.kind = .keyword && texts.contains face.text

/-- The keywords that start a line. -/
def lineStarters : List String := [
  "continue", "try", "throw", "return", "var", "let", "const", "if", "switch", "case", "default",
  "for", "while", "break", "function", "import", "export"]

/-- All keywords. -/
def keywords : List String :=
  lineStarters ++ [
    "do", "in", "of", "else", "get", "set", "new", "catch", "finally", "typeof", "yield", "async",
    "await", "from", "as", "class", "extends"]

/-- The keywords that keep what follows on their line. -/
def specialWords : List String := [
  "case", "return", "do", "if", "throw", "else", "await", "break", "continue", "async"]

/-- The keywords behind which a line end would end the statement. -/
def restrictedWords : List String := ["async", "break", "continue", "return", "throw", "yield"]

/-- The operators behind which a line end of the script is kept. -/
def positionable : List String := [
  ">>>", "===", "!==", "&&=", "??=", "||=", "<<", "&&", ">=", "**", "!=", "==", "<=", ">>", "||",
  "??", "|>", "<", "/", "-", "+", ">", ":", "&", "%", "?", "^", "|", "*"]

/-- All operators, so that none comes before one that starts with it. -/
def operators : List String := [
  ">>>=", "...", ">>=", "<<=", "===", ">>>", "!==", "**=", "&&=", "??=", "||=", "=>", "^=", "::",
  "/=", "<<", "<=", "==", "&&", "-=", ">=", ">>", "!=", "--", "+=", "**", "||", "??", "++", "%=",
  "&=", "*=", "|=", "|>", "=", "!", "?", ">", "<", ":", "/", "^", "-", "+", "*", "&", "%", "~",
  "|"]

end VmScan.Layout
