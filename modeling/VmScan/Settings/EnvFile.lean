import VmScan.Text.Blank

/-!
# Environment files

Files with one binding of a name to a value per line. A value may be quoted, and then may run over
several lines; a `#` behind a blank starts a comment; a name may stand without a value. A line
that is no binding is passed over.

* `Binding` — a name with its value, if it has one.
* `bindings` — the bindings of a file, in order.
* `expand` — the bindings with references to names replaced by their values.
-/

namespace VmScan.EnvFile

/-- A name with its value, if it has one. -/
structure Binding where
  name : String
  value : Option String
  deriving DecidableEq, Repr

/-! ## Parts of a line -/

/-- Whether the character is a blank within a line. -/
def isInnerBlank (c : Char) : Bool :=
  Text.isBlank c && c ≠ '\n' && c ≠ '\r'

/-- Whether the character may stand in a name that is not quoted. -/
def isNameChar (c : Char) : Bool :=
  !Text.isBlank c && c ≠ '=' && c ≠ '#'

/-- Whether the character stands within a line. -/
def inLine (c : Char) : Bool :=
  c ≠ '\n' && c ≠ '\r'

/-- The text behind the word that marks a binding for export. -/
def dropExport (cs : List Char) : List Char :=
  match cs with
  | 'e' :: 'x' :: 'p' :: 'o' :: 'r' :: 't' :: c :: rest =>
    if isInnerBlank c then rest.dropWhile isInnerBlank else cs
  | _ => cs

/-- The name at the start, and the text behind it. -/
def readName? : List Char → Option (List Char × List Char)
  | '\'' :: cs =>
    match cs.takeWhile (· ≠ '\''), cs.dropWhile (· ≠ '\'') with
    | c :: name, _ :: rest => some (c :: name, rest)
    | _, _ => none
  | cs =>
    match cs.takeWhile isNameChar with
    | [] => none
    | name => some (name, cs.dropWhile isNameChar)

/-- A character in front of the first part of a result. -/
def consFirst (c : Char) : List Char × List Char → List Char × List Char
  | (body, rest) => (c :: body, rest)

/-- The text up to the first quote without a backslash in front, and the text behind it. -/
def untilQuote? (quote : Char) : List Char → Option (List Char × List Char)
  | [] => none
  | '\\' :: c :: cs =>
    if c = quote then (untilQuote? quote cs).map (consFirst '\\' ∘ consFirst quote)
    else (untilQuote? quote (c :: cs)).map (consFirst '\\')
  | c :: cs =>
    if c = quote then some ([], cs) else (untilQuote? quote cs).map (consFirst c)

/-- The text up to the last quote with a backslash in front, and the text behind it. -/
def untilLastEscapedQuote? (quote : Char) : List Char → Option (List Char × List Char)
  | [] => none
  | '\\' :: c :: cs =>
    if c = quote then
      some (((untilLastEscapedQuote? quote cs).map (consFirst '\\' ∘ consFirst quote)).getD
        (['\\'], cs))
    else (untilLastEscapedQuote? quote (c :: cs)).map (consFirst '\\')
  | c :: cs => (untilLastEscapedQuote? quote cs).map (consFirst c)

/-- The body of a quoted value, and the text behind its closing quote. A backslash keeps a quote
from closing the value, unless nothing else closes it. -/
def quotedBody? (quote : Char) (cs : List Char) : Option (List Char × List Char) :=
  (untilQuote? quote cs).or (untilLastEscapedQuote? quote cs)

/-- What a backslash with the character behind it stands for in a value between single quotes. -/
def singleEscape? (c : Char) : Option Char :=
  if c = '\\' || c = '\'' then some c else none

/-- What a backslash with the character behind it stands for in a value between double quotes. -/
def doubleEscape? (c : Char) : Option Char :=
  match c with
  | '\\' | '\'' | '"' => some c
  | 'a' => some '\x07'
  | 'b' => some '\x08'
  | 'f' => some '\x0c'
  | 'n' => some '\n'
  | 'r' => some '\r'
  | 't' => some '\t'
  | 'v' => some '\x0b'
  | _ => none

/-- The text with the escapes replaced by what they stand for. -/
def unescape (escape? : Char → Option Char) : List Char → List Char
  | '\\' :: c :: cs =>
    match escape? c with
    | some meant => meant :: unescape escape? cs
    | none => '\\' :: unescape escape? (c :: cs)
  | c :: cs => c :: unescape escape? cs
  | [] => []

/-- Whether the text starts with blanks and a number sign. -/
def startsComment (cs : List Char) : Bool :=
  cs.head?.any Text.isBlank && (cs.dropWhile Text.isBlank).head? = some '#'

/-- The text in front of the first comment. -/
def beforeComment : List Char → List Char
  | [] => []
  | c :: cs => if startsComment (c :: cs) then [] else c :: beforeComment cs

/-- A value that is not quoted, and the text behind it. -/
def plainValue (cs : List Char) : List Char × List Char :=
  (Text.dropTrailingBlanks (beforeComment (cs.takeWhile inLine)), cs.dropWhile inLine)

/-- The value at the start, and the text behind it. -/
def readValue? : List Char → Option (List Char × List Char)
  | '\'' :: cs => (quotedBody? '\'' cs).map fun (body, rest) => (unescape singleEscape? body, rest)
  | '"' :: cs => (quotedBody? '"' cs).map fun (body, rest) => (unescape doubleEscape? body, rest)
  | cs => some (plainValue cs)

/-- The text behind a comment, if one stands here. -/
def dropComment (cs : List Char) : List Char :=
  match cs.dropWhile isInnerBlank with
  | '#' :: rest => rest.dropWhile inLine
  | _ => cs

/-- The text behind the end of the line, if only blanks stand in front of it. -/
def dropLineEnd? (cs : List Char) : Option (List Char) :=
  match cs.dropWhile isInnerBlank with
  | [] => some []
  | '\r' :: '\n' :: rest | '\n' :: rest | '\r' :: rest => some rest
  | _ => none

/-- The text behind the line. -/
def dropLine (cs : List Char) : List Char :=
  (cs.dropWhile inLine).drop 1

/-! ## Bindings -/

/-- The binding whose name has been read; `none` where the line is none. -/
def bindingOf (name : List Char) (value : Option (List Char)) (cs : List Char) :
    Option Binding × List Char :=
  match dropLineEnd? (dropComment cs) with
  | some rest =>
    (some { name := String.ofList name, value := value.map String.ofList }, rest)
  | none => (none, dropLine (dropComment cs))

/-- The binding behind its name. -/
def readBehindName (name : List Char) (cs : List Char) : Option Binding × List Char :=
  match cs.dropWhile isInnerBlank with
  | '=' :: rest =>
    let rest := rest.dropWhile isInnerBlank
    match readValue? rest with
    | some (value, rest) => bindingOf name (some value) rest
    | none => (none, dropLine rest)
  | rest => bindingOf name none rest

/-- The binding at the start, behind blank lines, and the text behind it. -/
def readBinding (cs : List Char) : Option Binding × List Char :=
  match dropExport (cs.dropWhile Text.isBlank) with
  | '#' :: rest => (none, dropLine rest)
  | rest =>
    match readName? rest with
    | some (name, rest) => readBehindName name rest
    | none => (none, dropLine rest)

/-- The bindings of a file. -/
def bindings (cs : List Char) : List Binding :=
  match cs with
  | [] => []
  | c :: cs =>
    match readBinding (c :: cs) with
    | (binding, rest) =>
      binding.toList ++ (if rest.length < cs.length + 1 then bindings rest else [])
termination_by cs.length

/-! ## References -/

/-- Names with their values, where they have one. -/
abbrev Values := List (String × Option String)

/-- Gives the name its value, in its place if it is there and at the end if not. -/
def assign (name : String) (value : Option String) : Values → Values
  | [] => [(name, value)]
  | (other, old) :: rest =>
    if other = name then (name, value) :: rest else (other, old) :: assign name value rest

/-- The value of a name; `none` for an unknown name. -/
def look? (values : Values) (name : String) : Option (Option String) :=
  (values.find? fun (other, _) => other = name).map (·.2)

/-- The name and the default of a reference, behind its opening brace, and the text behind it. -/
def readReference? (cs : List Char) : Option (String × String × List Char) :=
  let isNamePart := fun c : Char => c ≠ '\x7d' && c ≠ ':'
  let name := String.ofList (cs.takeWhile isNamePart)
  match cs.dropWhile isNamePart with
  | '\x7d' :: rest => some (name, "", rest)
  | ':' :: '-' :: rest =>
    match rest.dropWhile (· ≠ '\x7d') with
    | _ :: behind => some (name, String.ofList (rest.takeWhile (· ≠ '\x7d')), behind)
    | [] => none
  | _ => none

/-- The text with every reference replaced by the value of its name: the default where the name
is unknown, nothing where it has no value. -/
def substitute (values : Values) : List Char → List Char
  | [] => []
  | '$' :: '\x7b' :: body =>
    match readReference? body with
    | some (name, fallback, rest) =>
      let value := (look? values name).getD (some fallback)
      (value.getD "").toList ++
        (if rest.length < body.length then substitute values rest else [])
    | none => '$' :: substitute values ('\x7b' :: body)
  | c :: cs => c :: substitute values cs
termination_by cs => cs.length

/-- The values of the bindings; a reference sees the bindings above it, then `outer`. -/
def expand (outer : Values) (bs : List Binding) : Values :=
  bs.foldl (fun values binding =>
    let known := values.foldl (fun known (name, value) => assign name value known) outer
    let value := binding.value.map fun text =>
      String.ofList (substitute known text.toList)
    assign binding.name value values) []

end VmScan.EnvFile
