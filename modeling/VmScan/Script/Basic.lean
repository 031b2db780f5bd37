import VmScan.Text.Digit
import VmScan.Text.Letter

/-!
# The characters and lexemes of a script

* `isLineTerminator`, `isWhite`, `isNameStart`, `isNamePart` — the classes of characters.
* `terminatorCount` — the number of line ends, a carriage return with its line feed counted once.
* `Lexeme` — a piece of a script: a token of some kind, or a gap of white space and comments.
* `Cause`, `Fault` — why and how far into a piece scanning stops.
-/

namespace VmScan.Script

/-- Whether the character ends a line. -/
def isLineTerminator (c : Char) : Bool :=
  c = '\n' || c = '\r' || c.toNat == 0x2028 || c.toNat == 0x2029

/-- Whether the character is white space within a line. -/
def isWhite (c : Char) : Bool :=
  let n := c.toNat
  n == 0x20 || n == 0x09 || n == 0x0B || n == 0x0C || n == 0xA0 || n == 0x1680 || n == 0x180E
    || (0x2000 ≤ n && n ≤ 0x200A) || n == 0x202F || n == 0x205F || n == 0x3000 || n == 0xFEFF

/-- Whether a name may start with the character. -/
def isNameStart (c : Char) : Bool :=
  c = '$' || c = '_' || Text.letters.contains c

/-- Whether a name may go on with the character: with all that may start one, with marks, digits
and connecting punctuation of any script, and with the two zero-width joining controls. -/
def isNamePart (c : Char) : Bool :=
  isNameStart c || Text.joiners.contains c || c.toNat == 0x200C || c.toNat == 0x200D

/-- Whether the character is an octal digit. -/
def isOctalDigit (c : Char) : Bool := '0' ≤ c && c ≤ '7'

/-- Whether the character is a binary digit. -/
def isBinaryDigit (c : Char) : Bool := c = '0' || c = '1'

/-- The number of line ends. -/
def terminatorCount : List Char → Nat
  | [] => 0
  | '\r' :: '\n' :: cs => terminatorCount cs + 1
  | c :: cs => if isLineTerminator c then terminatorCount cs + 1 else terminatorCount cs

/-- The kinds of lexeme. -/
inductive LexemeKind where
  | gap
  | name
  | keyword
  | punctuator
  | number
  | string
  | template
  | pattern
  deriving DecidableEq, Repr

/-- A piece of a script. -/
structure Lexeme where
  kind : LexemeKind
  text : List Char
  deriving DecidableEq, Repr

/-- Whether the lexeme is a string or a piece of a template. -/
def Lexeme.isLiteral (lexeme : Lexeme) : Bool :=
  lexeme.kind = .string || lexeme.kind = .template

/-- Why a script cannot be scanned. -/
inductive Cause where
  | illegal
  | hexEscape
  | templateOctal
  | escapedKeyword
  deriving DecidableEq, Repr

/-- The message of a cause. -/
def Cause.message : Cause → String
  | .illegal => "Unexpected token ILLEGAL"
  | .hexEscape => "Invalid hexadecimal escape sequence"
  | .templateOctal => "Octal literals are not allowed in template strings."
  | .escapedKeyword => "Keyword must not contain escaped characters"

/-- A cause and the number of characters in front of the place where scanning stops. -/
structure Fault where
  cause : Cause
  offset : Nat
  deriving DecidableEq, Repr

/-- The result for a piece, with `count` characters in front of it. -/
def advance (count : Nat) : Except Fault Nat → Except Fault Nat
  | .ok length => .ok (count + length)
  | .error fault => .error { fault with offset := count + fault.offset }

end VmScan.Script
