import VmScan.Layout.Directive
import VmScan.Layout.WordChars
import VmScan.Script.Basic
import VmScan.Text.Blank

/-!
# Pieces of a script for the layout

Each piece is cut off from the start of a text; what follows it is left.

* `cutWord`, `cutNumber`, `cutLiteral`, `cutPattern` — words, numbers, what stands between quotes,
  and regular expressions.
* `cutBlockNote`, `cutLine`, `cutWholeLine`, `cutIgnored` — comments, lines, and parts that are
  passed over.
-/

namespace VmScan.Layout

open VmScan.Script

/-! ## Parts of tokens -/

/-- A piece with the text behind it. -/
abbrev Cut := List Char × List Char

/-- The cut with the characters in front of its piece. -/
def Cut.behind (front : List Char) (cut : Cut) : Cut :=
  (front ++ cut.1, cut.2)

/-- The longest start of the text whose characters pass the test. -/
def cutWhile (p : Char → Bool) (cs : List Char) : Cut :=
  (cs.takeWhile p, cs.dropWhile p)

/-- Whether the character is a blank within a line. -/
def isSpace (c : Char) : Bool :=
  isWhite c && c.toNat ≠ 0x0B && c.toNat ≠ 0x0C

/-- Whether the character stands between tokens. -/
def isGap (c : Char) : Bool :=
  isSpace c || isLineTerminator c

/-- The escape of a character of a word. -/
def cutEscape? : List Char → Option Cut
  | '\\' :: 'u' :: '\x7b' :: cs =>
    match cutWhile Text.isHexDigit cs with
    | (d :: ds, '\x7d' :: rest) => some (['\\', 'u', '\x7b', d] ++ ds ++ ['\x7d'], rest)
    | _ => none
  | '\\' :: 'u' :: a :: b :: c :: d :: rest =>
    if [a, b, c, d].all Text.isHexDigit then some (['\\', 'u', a, b, c, d], rest) else none
  | _ => none

/-- The rest of a word. -/
def cutWordRest (cs : List Char) : Cut :=
  match cs with
  | [] => ([], [])
  | c :: rest =>
    if continuesWord c then (cutWordRest rest).behind [c]
    else match cutEscape? (c :: rest) with
      | some (escape, behind) =>
        if behind.length < rest.length + 1 then (cutWordRest behind).behind escape
        else ([], c :: rest)
      | none => ([], c :: rest)
termination_by cs.length

/-- The word at the start. -/
def cutWord (cs : List Char) : Cut :=
  match cs with
  | [] => ([], [])
  | c :: rest =>
    if startsWord c then (cutWordRest rest).behind [c]
    else match cutEscape? (c :: rest) with
      | some (escape, behind) => (cutWordRest behind).behind escape
      | none => ([], c :: rest)

/-- Whether the character is a digit of any script or separates digits. -/
def isDigitPart (c : Char) : Bool :=
  c = '_' || Text.isDecimalDigit c

/-- The suffix of a big number. -/
def cutBig : List Char → Cut
  | 'n' :: rest => (['n'], rest)
  | cs => ([], cs)

/-- The digits of a number with a base, and its suffix. -/
def cutBased (front : List Char) (isDigit : Char → Bool) (cs : List Char) : Cut :=
  let (digits, rest) := cutWhile (fun c => isDigit c || c = '_') cs
  (cutBig rest).behind (front ++ digits)

/-- The exponent of a number, if there is one. -/
def cutExponent (cs : List Char) : Cut :=
  let digitsBehind := fun (front rest : List Char) =>
    match cutWhile isDigitPart rest with
    | ([], _) => ([], cs)
    | (digits, behind) => (front ++ digits, behind)
  match cs with
  | e :: sign :: rest =>
    if e ≠ 'e' && e ≠ 'E' then ([], cs)
    else if sign = '+' || sign = '-' then digitsBehind [e, sign] rest
    else digitsBehind [e] (sign :: rest)
  | _ => ([], cs)

/-- The fraction of a number behind its whole part, if there is one. -/
def cutFraction : List Char → Cut
  | '.' :: rest => (cutWhile isDigitPart rest).behind ['.']
  | cs => ([], cs)

/-- The decimal number that starts with the given characters. -/
def cutDecimal (front cs : List Char) : Cut :=
  let (fraction, rest) := cutFraction cs
  (cutExponent rest).behind (front ++ fraction)

/-- The number at the start. -/
def cutNumber : List Char → Cut
  | '0' :: 'x' :: cs => cutBased ['0', 'x'] Text.isHexDigit cs
  | '0' :: 'X' :: cs => cutBased ['0', 'X'] Text.isHexDigit cs
  | '0' :: 'o' :: cs => cutBased ['0', 'o'] isOctalDigit cs
  | '0' :: 'O' :: cs => cutBased ['0', 'O'] isOctalDigit cs
  | '0' :: 'b' :: cs => cutBased ['0', 'b'] isBinaryDigit cs
  | '0' :: 'B' :: cs => cutBased ['0', 'B'] isBinaryDigit cs
  | '.' :: d :: cs =>
    if Text.isDecimalDigit d then
      let (digits, rest) := cutWhile isDigitPart cs
      (cutExponent rest).behind (['.', d] ++ digits)
    else ([], '.' :: d :: cs)
  | c :: cs =>
    if Text.isDecimalDigit c then
      match cutWhile isDigitPart cs with
      | (digits, 'n' :: rest) => (c :: digits ++ ['n'], rest)
      | (digits, rest) => cutDecimal (c :: digits) rest
    else ([], c :: cs)
  | [] => ([], [])

/-- What a part of a literal ends with. -/
inductive Delimiter where
  | quote (c : Char)
  | template
  /-- An expression within a template. -/
  | expression
  deriving DecidableEq, Repr

/-- The character that ends the part. -/
def Delimiter.closing : Delimiter → Char
  | .quote c => c
  | .template => '\x60'
  | .expression => '\x7d'

/-- The rest of a literal whose open parts are given, the innermost first. A part between quotes
ends at the end of its line. -/
def cutLiteral : List Delimiter → List Char → Cut
  | [], cs => ([], cs)
  | _, [] => ([], [])
  | outer, '\\' :: '\r' :: '\n' :: cs => (cutLiteral outer cs).behind ['\\', '\n']
  | outer, '\\' :: c :: cs => (cutLiteral outer cs).behind ['\\', c]
  | .template :: outer, '$' :: '\x7b' :: cs =>
    (cutLiteral (.expression :: .template :: outer) cs).behind ['$', '\x7b']
  | part :: outer, c :: cs =>
    if c = part.closing then (cutLiteral outer cs).behind [c]
    else if part = .expression && c = '\x60' then
      (cutLiteral (.template :: part :: outer) cs).behind [c]
    else if (part matches .quote _) && isLineTerminator c then ([], c :: cs)
    else (cutLiteral (part :: outer) cs).behind [c]

/-- The text with a line feed for each line end. -/
def unifyTerminators : List Char → List Char
  | [] => []
  | '\r' :: '\n' :: cs => '\n' :: unifyTerminators cs
  | c :: cs => (if isLineTerminator c then '\n' else c) :: unifyTerminators cs

/-- The line, without its end. -/
def cutLine (cs : List Char) : Cut :=
  cutWhile (!isLineTerminator ·) cs

/-- The line, without the blanks around it, and with a line feed; the end of the line is read. -/
def cutWholeLine (cs : List Char) : Cut :=
  let (line, rest) := cutLine cs
  let behind := match rest with
    | '\r' :: '\n' :: behind => behind
    | _ :: behind => behind
    | [] => []
  (Text.strip line ++ ['\n'], behind)

/-- The rest of a label for a value that holds itself: it reaches up to a number sign, or up to an
equals sign and empty brackets behind it. -/
def cutSharp (cs : List Char) : Cut :=
  let (label, rest) := cutWhile (fun c => c ≠ '#' && c ≠ '=') cs
  match rest with
  | '=' :: '[' :: ']' :: behind => (label ++ ['=', '[', ']'], behind)
  | '=' :: '\x7b' :: '\x7d' :: behind => (label ++ ['=', '\x7b', '\x7d'], behind)
  | sign :: behind => (label ++ [sign], behind)
  | [] => (label, [])

/-- The part that the layout passes over, up to the comment that ends it. -/
def cutIgnored (cs : List Char) : Cut :=
  match Text.first? ignoredEnd? cs with
  | some (_, behind) => (cs.take (cs.length - behind.length), behind)
  | none => (cs, [])

/-- The rest of a block comment. -/
def cutBlockNote : List Char → Cut
  | '*' :: '/' :: rest => (['*', '/'], rest)
  | c :: cs => (cutBlockNote cs).behind [c]
  | [] => ([], [])

/-- The rest of a regular expression, with its flags if it is closed. -/
def cutPattern (inClass : Bool) : List Char → Cut
  | [] => ([], [])
  | c :: cs =>
    if isLineTerminator c then ([], c :: cs)
    else if c = '\\' then
      match cs with
      | d :: rest =>
        if isLineTerminator d then ([c], d :: rest) else (cutPattern inClass rest).behind [c, d]
      | [] => ([c], [])
    else if c = '/' && !inClass then (cutWord cs).behind [c]
    else if c = '[' then (cutPattern true cs).behind [c]
    else if c = ']' then (cutPattern false cs).behind [c]
    else (cutPattern inClass cs).behind [c]

end VmScan.Layout
