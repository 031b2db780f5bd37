import VmScan.Script.Scanner

/-!
# Shortening long literals

Strings and pieces of templates whose body is longer than a limit are cut; everything else stays.

* `Span` — where a literal stands in a script; `literalSpansWith` — the literals that scanning
  finds, `literalSpans` — with the grammar of patterns.
* `keptLength` — how much of a body is kept: the limit, or one character less where the cut would
  leave a backslash without the character behind it.
* `shorten` — a long literal with its body cut, a note of how much is missing, its closing
  delimiter, and the line feeds that were cut away, so that no later line moves (`_shorten`).
* `spliceFrom` — a script with the long literals of some spans shortened, and all else copied.
* `truncate` — a script shortened; a script that cannot be scanned is left as it is
  (`truncate_long_strings`).
-/

namespace VmScan.Script

/-- The number of backslashes at the end. -/
def trailingBackslashes (cs : List Char) : Nat :=
  (cs.reverse.takeWhile (· = '\\')).length

/-- The number of characters of the body that are kept. -/
def keptLength (limit : Nat) (body : List Char) : Nat :=
  if trailingBackslashes (body.take limit) % 2 = 1 then limit - 1 else limit

/-- The length of the closing delimiter of a literal. -/
def closingLength (literal : List Char) : Nat :=
  let quoted := literal.head? = some '\'' || literal.head? = some '"'
  if !quoted && ['$', '\x7b'].isSuffixOf literal then 2 else 1

/-- The closing delimiter of a literal. -/
def closingOf (literal : List Char) : List Char :=
  literal.drop (literal.length - closingLength literal)

/-- The text of a literal between its delimiters. -/
def bodyOf (literal : List Char) : List Char :=
  (literal.drop 1).take (literal.length - closingLength literal - 1)

/-- Whether the body of the literal is over the limit. -/
def isLong (limit : Nat) (literal : List Char) : Bool :=
  limit < (bodyOf literal).length

/-- The text that stands for the cut part of a body. -/
def cutMark (count : Nat) : List Char :=
  s!"...[+{count} chars]".toList

/-- The literal with its body cut, if it is long (`_shorten`). -/
def shorten (limit : Nat) (literal : List Char) : List Char :=
  if isLong limit literal then
    let kept := (bodyOf literal).take (keptLength limit (bodyOf literal))
    let removed := (bodyOf literal).drop (keptLength limit (bodyOf literal))
    literal.take 1 ++ kept ++ cutMark removed.length ++ closingOf literal
      ++ List.replicate (removed.count '\n') '\n'
  else literal

/-- Where a literal stands: from the place `start` up to the place `stop`. -/
structure Span where
  start : Nat
  stop : Nat
  deriving DecidableEq, Repr

/-- The text of a script in the span. -/
def Span.text (script : List Char) (span : Span) : List Char :=
  (script.take span.stop).drop span.start

/-- The script from the place `copied` on, with the long literals of the spans shortened. -/
def spliceFrom (limit : Nat) (script : List Char) (copied : Nat) : List Span → List Char
  | [] => script.drop copied
  | span :: spans =>
    if isLong limit (span.text script) then
      (script.take span.start).drop copied ++ shorten limit (span.text script)
        ++ spliceFrom limit script span.stop spans
    else spliceFrom limit script copied spans

/-- The spans of the literals among lexemes the first of which starts at the given place. -/
def literalSpansFrom (start : Nat) : List Lexeme → List Span
  | [] => []
  | lexeme :: lexemes =>
    let stop := start + lexeme.text.length
    if lexeme.isLiteral then ⟨start, stop⟩ :: literalSpansFrom stop lexemes
    else literalSpansFrom stop lexemes

/-- Finds the literals of a script. -/
abbrev Tokenizer := List Char → Except Failure (List Span)

/-- The literals that scanning finds, by a test for patterns. -/
def literalSpansWith (takes : PatternTest) : Tokenizer := fun script =>
  (scan takes script).map (literalSpansFrom 0)

/-- The literals that scanning finds. -/
def literalSpans : Tokenizer :=
  literalSpansWith Pattern.compiles

/-- A script with shortened literals, and the warning where it could not be scanned. -/
structure Truncated where
  code : String
  warning : Option String := none
  deriving DecidableEq, Repr

/-- Why a script is not shortened. -/
inductive TruncateFault where
  | limitNotPositive
  | noSuchToken
  deriving DecidableEq, Repr

/-- The message of a fault. -/
def TruncateFault.message : TruncateFault → String
  | .limitNotPositive => "char_limit must be a positive integer"
  | .noSuchToken => Failure.noSuchToken.message

/-- The warning for a script that cannot be scanned. -/
def skippedWarning (failure : Failure) : String :=
  s!"event=truncation_skipped reason=tokenize_failed error={failure.message}"

/-- The script with literals of at most `limit` characters, where the tokenizer finds them. A
script with a fault is left as it is, with a warning. -/
def truncateWith (tokenize : Tokenizer) (code : String) (limit : Int) :
    Except TruncateFault Truncated :=
  if limit ≤ 0 then .error .limitNotPositive
  else match tokenize code.toList with
    | .ok spans => .ok { code := String.ofList (spliceFrom limit.toNat code.toList 0 spans) }
    | .error .noSuchToken => .error .noSuchToken
    | .error (.fault cause line) =>
      .ok { code, warning := some (skippedWarning (.fault cause line)) }

/-- The script with literals of at most `limit` characters. -/
def truncate : String → Int → Except TruncateFault Truncated :=
  truncateWith literalSpans

end VmScan.Script
