import VmScan.Script.Literal
import VmScan.Script.Numeral
import VmScan.Script.Pattern
import VmScan.Script.PatternGoal

/-!
# Scanning

A script as a row of lexemes. Joining the texts of the lexemes gives the script back, because
each is the next characters of the script.

* `Token` — the kind of a token, how many characters belong to it behind its first, and the stack
  of open braces after it.
* `scanToken` — the token at a place where no pattern opens; `patternRest?` — the pattern.
* `PatternTest` — which texts are patterns. The scanner is one for every test.
* `scan` — all lexemes of a script (`tokenize`), or the failure with the line on which it happens.
-/

namespace VmScan.Script

open VmScan.Text

/-! ## Names -/

/-- The words that are keywords. -/
def keywords : List String :=
  ["if", "in", "do", "var", "for", "new", "try", "let", "this", "else", "case", "void", "with",
   "enum", "while", "break", "catch", "throw", "const", "yield", "class", "super", "return",
   "typeof", "delete", "switch", "export", "import", "default", "finally", "extends", "function",
   "continue", "debugger", "instanceof"]

/-- The words that stand for a value. -/
def valueWords : List String := ["null", "true", "false"]

/-- What a name says with its escapes resolved, and how many characters belong to it. -/
structure Name where
  said : List Char
  length : Nat

/-- The name with one more character in front. -/
def Name.cons (c : Char) (length : Nat) (name : Name) : Name :=
  ⟨c :: name.said, length + name.length⟩

/-- The rest of a name; `none` where an escape in it is wrong. -/
def nameRest? : List Char → Option Name
  | [] => some ⟨[], 0⟩
  | c :: cs =>
    if c = '\\' then
      match nameEscape? isNamePart cs with
      | none => none
      | some (said, length) => (nameRest? (cs.drop length)).map (·.cons said (length + 1))
    else if isNamePart c then (nameRest? cs).map (·.cons c 1)
    else some ⟨[], 0⟩
termination_by input => input.length
decreasing_by all_goals simp only [List.length_cons, List.length_drop]; omega

/-- A whole name that starts with the given character. -/
def name? (first : Char) (cs : List Char) : Option Name :=
  if first = '\\' then
    (nameEscape? isNameStart cs).bind fun (said, length) =>
      (nameRest? (cs.drop length)).map (·.cons said (length + 1))
  else (nameRest? cs).map (·.cons first 1)

/-! ## Tokens -/

/-- What the closing braces that are still to come close. -/
inductive Opened where
  | brace
  | substitution
  deriving DecidableEq, Repr

/-- A token: its kind, the number of its characters behind the first, and the stack after it. -/
structure Token where
  kind : LexemeKind
  rest : Nat
  opened : List Opened

/-- The kind of a name. A keyword or a word for a value must not hold an escape. -/
def nameKind (name : Name) : Except Cause LexemeKind :=
  let word := String.ofList name.said
  if name.said.length = 1 then .ok .name
  else if keywords.contains word || valueWords.contains word then
    if name.length = name.said.length then
      .ok (if keywords.contains word then .keyword else .name)
    else .error .escapedKeyword
  else .ok .name

/-- The punctuators, longer ones first. -/
def punctuators : List (List Char) :=
  [">>>=", "...", "===", "!==", ">>>", "<<=", ">>=", "**=", "&&", "||", "==", "!=", "+=", "-=",
   "*=", "/=", "++", "--", "<<", ">>", "&=", "|=", "^=", "%=", "<=", ">=", "=>", "**", "(", ")",
   "\x7b", "\x7d", "[", "]", ".", ";", ",", ":", "?", "~", "<", ">", "=", "!", "+", "-", "*", "%",
   "&", "|", "^", "/"].map String.toList

/-- The stack of open braces after a punctuator. -/
def openedAfter (first : Char) (opened : List Opened) : List Opened :=
  if first = '\x7b' then .brace :: opened
  else if first = '\x7d' then opened.tail
  else opened

/-- A token of the given kind, if its length is known. -/
def tokenOf (kind : LexemeKind) (opened : List Opened) (rest : Option Nat) :
    Except Fault Token :=
  match rest with
  | some rest => .ok ⟨kind, rest, opened⟩
  | none => .error ⟨.illegal, 0⟩

/-- A piece of a template. One that begins with a backtick opens a substitution if it ends with
one; one that goes on behind a substitution closes it unless it ends with another. -/
def scanTemplate (first : Char) (opened : List Opened) (cs : List Char) : Except Fault Token :=
  match advance 1 (templateLength cs) with
  | .error fault => .error fault
  | .ok length =>
    let substitutes := (cs.take (length - 1)).getLast? = some '\x7b'
    let opened :=
      if first = '\x60' then (if substitutes then .substitution :: opened else opened)
      else (if substitutes then opened else opened.tail)
    .ok ⟨.template, length - 1, opened⟩

/-- The token that starts with the given character, where no pattern opens. -/
def scanToken (opened : List Opened) (first : Char) (cs : List Char) : Except Fault Token :=
  if isNameStart first || first = '\\' then
    match name? first cs with
    | none => .error ⟨.illegal, 0⟩
    | some name =>
      match nameKind name with
      | .ok kind => .ok ⟨kind, name.length - 1, opened⟩
      | .error cause => .error ⟨cause, 0⟩
  else if first = '\'' || first = '"' then
    match advance 1 (stringLength first cs) with
    | .error fault => .error fault
    | .ok length => .ok ⟨.string, length - 1, opened⟩
  else if isAsciiDigit first || (first = '.' && startsDigit cs) then
    tokenOf .number opened (numberRest? first cs)
  else if first = '\x60' || (first = '\x7d' && opened.head? = some .substitution) then
    scanTemplate first opened cs
  else
    tokenOf .punctuator (openedAfter first opened)
      ((punctuators.find? (·.isPrefixOf (first :: cs))).map (·.length - 1))

/-! ## Patterns -/

/-- The length of the body of a pattern up to and with its closing slash. -/
def patternBodyLength? (inSet : Bool) : List Char → Option Nat
  | [] => none
  | ['\\'] => none
  | '\\' :: c :: cs =>
    if isLineTerminator c then none else (patternBodyLength? inSet cs).map (· + 2)
  | c :: cs =>
    if isLineTerminator c then none
    else if inSet then (patternBodyLength? (c ≠ ']') cs).map (· + 1)
    else if c = '/' then some 1
    else (patternBodyLength? (c = '[') cs).map (· + 1)

/-- The flags of a pattern; an escape makes none, except for a backslash that ends the script. -/
def patternFlags? : List Char → Option (List Char)
  | [] => some []
  | ['\\'] => some ['\\']
  | c :: cs =>
    if c = '\\' then none
    else if isNamePart c then (patternFlags? cs).map (c :: ·)
    else some []

/-- Tells which texts are patterns, as `re.compile` does. -/
abbrev PatternTest := List Char → Bool

/-- The number of characters of a pattern behind its opening slash. -/
def patternRest? (takes : PatternTest) (cs : List Char) : Option Nat := do
  let length ← patternBodyLength? false cs
  let flags ← patternFlags? (cs.drop length)
  if Pattern.isPattern takes (cs.take (length - 1)) flags then some (length + flags.length)
  else none

/-! ## Scripts -/

/-- Why a script cannot be scanned: a fault on a line, or a slash for which the rule on patterns
asks for a token that is not there. -/
inductive Failure where
  | fault (cause : Cause) (line : Nat)
  | noSuchToken
  deriving DecidableEq, Repr

/-- The message of a failure. -/
def Failure.message : Failure → String
  | .fault cause line => s!"Line {line}: {cause.message}"
  | .noSuchToken => "list index out of range"

/-- The place of the scanner: the line, the open braces and the tokens so far. -/
structure Place where
  line : Nat := 1
  opened : List Opened := []
  history : History := {}

/-- The failure of a piece that starts at the place. -/
def Place.failure (place : Place) (input : List Char) (fault : Fault) : Failure :=
  .fault fault.cause (place.line + terminatorCount (input.take fault.offset))

/-- The length of the gap at the start of the text. -/
def Place.gap (place : Place) (start : Bool) (input : List Char) : Except Failure Nat :=
  (gapLength start input).mapError (place.failure input)

/-- The token at the start of the text. -/
def Place.token (takes : PatternTest) (place : Place) (first : Char) (cs : List Char) :
    Except Failure Token := do
  let opens ←
    if first = '/' then
      match place.history.opensPattern? with
      | some opens => pure opens
      | none => throw .noSuchToken
    else pure false
  match if opens then patternRest? takes cs else none with
  | some rest => return ⟨.pattern, rest, place.opened⟩
  | none => (scanToken place.opened first cs).mapError (place.failure (first :: cs))

/-- The place behind a gap. -/
def Place.afterGap (place : Place) (text : List Char) : Place :=
  { place with line := place.line + terminatorCount text }

/-- The place behind a token. -/
def Place.afterToken (place : Place) (token : Token) (text : List Char) : Place :=
  let value :=
    if token.kind = .keyword || token.kind = .punctuator then some (String.ofList text) else none
  { line := place.line + terminatorCount text
    opened := token.opened
    history := place.history.push value }

/-- The lexeme of a gap, unless it is empty. -/
def gapLexeme (text : List Char) : List Lexeme :=
  if text.isEmpty then [] else [⟨.gap, text⟩]

/-- The lexemes of the text at the place; `start` holds at the start of the script. -/
def scanFrom (takes : PatternTest) (place : Place) (start : Bool) (input : List Char) :
    Except Failure (List Lexeme) :=
  match place.gap start input with
  | .error failure => .error failure
  | .ok gap =>
    let space := input.take gap
    match after : input.drop gap with
    | [] => .ok (gapLexeme space)
    | first :: cs =>
      have shorter : cs.length < input.length := by
        have := congrArg List.length after
        simp only [List.length_drop, List.length_cons] at this
        omega
      let place := place.afterGap space
      match place.token takes first cs with
      | .error failure => .error failure
      | .ok token =>
        let text := first :: cs.take token.rest
        match scanFrom takes (place.afterToken token text) false (cs.drop token.rest) with
        | .error failure => .error failure
        | .ok lexemes => .ok (gapLexeme space ++ ⟨token.kind, text⟩ :: lexemes)
termination_by input.length
decreasing_by simp only [List.length_drop]; omega

/-- The lexemes of a script. -/
def scan (takes : PatternTest) (script : List Char) : Except Failure (List Lexeme) :=
  scanFrom takes {} true script

end VmScan.Script
