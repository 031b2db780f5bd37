import VmScan.Json.Value
import VmScan.Number.Integer
import VmScan.Text.Digit

/-!
# Reading JSON

A reader of JSON texts that says where and why it stops.

* `Parsed` — what a reader has read, the text that is left, and that it is shorter.
* `Fault` — the ten ways in which a text can fail to be JSON; `Stop` adds the two limits, on the
  digits of an integer and on the depth of nesting, which are not faults of the text.
* `Runtime` — what reading takes from the interpreter: how deep containers may nest, and what stands
  for half a surrogate pair. `Runtime.usual` is one.
* `readValue` — one value at the start of a text, with at most `depth` containers inside each
  other.
* `decode` — `json.loads`, a whole text: one value with blanks around it.
* `Position` — a place in a text as line, column and offset.

The literals `NaN`, `Infinity` and `-Infinity` are read as numbers.
-/

namespace VmScan.Json

open VmScan.Number VmScan.Text

/-- What reading and writing take from the interpreter. Its limits on nesting differ from version to
version, and may depend on how deep the calls are that lead to the reader. -/
structure Runtime where
  /-- How many containers may stand inside each other in a text that is read. -/
  depth : Nat
  /-- How many may stand inside each other in a value that is written. -/
  writeDepth : Nat
  /-- The character that stands for half a surrogate pair without the other half. A text of
  characters holds no such half; what is proved of all stand-ins holds for one that no text has. -/
  loneHalf : Nat → Char
  /-- No interpreter is in use that stops at fewer. -/
  sixteen_le_depth : 16 ≤ depth := by decide

/-- A runtime that takes a thousand containers inside each other, and puts the replacement character
for half a pair. -/
def Runtime.usual : Runtime where
  depth := 1000
  writeDepth := 1000
  loneHalf := fun _ => Char.ofNat 0xFFFD

/-- A fault of the text. -/
inductive Fault where
  | expectingValue
  | expectingName
  | expectingColon
  | expectingComma
  | extraData
  | unterminatedString
  | controlCharacter
  | badEscape
  | badUnicodeEscape
  | byteOrderMark
  deriving DecidableEq, Repr

/-- The two kinds of container. -/
inductive Container where
  | array
  | object
  deriving DecidableEq, Repr

/-- Why the reader stops; a fault comes with the text from its place on. -/
inductive Stop where
  | malformed (fault : Fault) (rest : List Char)
  | tooManyDigits (count : Nat)
  | tooDeep (container : Container)
  deriving DecidableEq, Repr

/-- What has been read from the start of `input`, and the shorter text that is left. -/
structure Parsed (α : Type) (input : List Char) where
  value : α
  rest : List Char
  shorter : rest.length < input.length

/-- A reader of something at the start of a text. -/
abbrev Reader (α : Type) := (input : List Char) → Except Stop (Parsed α input)

/-- Whether the character may stand between the tokens of a text. -/
def isBlank (c : Char) : Bool :=
  c = ' ' || c = '\t' || c = '\n' || c = '\r'

/-- The text after its leading blanks. -/
def skipBlank (input : List Char) : List Char :=
  input.dropWhile isBlank

theorem length_dropWhile_le (p : Char → Bool) (input : List Char) :
    (input.dropWhile p).length ≤ input.length :=
  (List.dropWhile_sublist p).length_le

theorem length_skipBlank_le (input : List Char) : (skipBlank input).length ≤ input.length :=
  length_dropWhile_le _ input

/-! ## Strings -/

/-- The value of four hexadecimal digits. -/
def hexQuad? (a b c d : Char) : Option Nat := do
  let a ← hexValue? a
  let b ← hexValue? b
  let c ← hexValue? c
  let d ← hexValue? d
  return ((a * 16 + b) * 16 + c) * 16 + d

/-- Whether the code is the first half of a surrogate pair. -/
def isHighSurrogate (code : Nat) : Bool := 0xD800 ≤ code && code ≤ 0xDBFF

/-- Whether the code is the second half of a surrogate pair. -/
def isLowSurrogate (code : Nat) : Bool := 0xDC00 ≤ code && code ≤ 0xDFFF

/-- The character with the given code, or what stands for half a surrogate pair. -/
def charOfUnit (runtime : Runtime) (code : Nat) : Char :=
  if isHighSurrogate code || isLowSurrogate code then runtime.loneHalf code else Char.ofNat code

/-- The character that a surrogate pair writes. -/
def charOfPair (high low : Nat) : Char :=
  Char.ofNat (0x10000 + (high - 0xD800) * 0x400 + (low - 0xDC00))

/-- The character that an escape with one letter writes. -/
def simpleEscape? : Char → Option Char
  | '"' => some '"'
  | '\\' => some '\\'
  | '/' => some '/'
  | 'b' => some '\x08'
  | 'f' => some '\x0c'
  | 'n' => some '\n'
  | 'r' => some '\r'
  | 't' => some '\t'
  | _ => none

/-- The second half of a surrogate pair, if an escape for one is next. -/
def readLowHalf : (input : List Char) → Except Stop (Option (Parsed Nat input))
  | '\\' :: 'u' :: a :: b :: c :: d :: next :: more =>
    match hexQuad? a b c d with
    | none => .error (.malformed .badUnicodeEscape ('u' :: a :: b :: c :: d :: next :: more))
    | some low =>
      if isLowSurrogate low then
        .ok (some ⟨low, next :: more, by simp only [List.length_cons]; omega⟩)
      else .ok none
  | _ => .ok none

/-- The character of an escape by number, read after its backslash. Four digits must follow, and
the text must go on behind them; a first half takes in the second half that follows it. -/
def readUnicode (runtime : Runtime) : Reader Char
  | u :: a :: b :: c :: d :: next :: more =>
    match hexQuad? a b c d with
    | none => .error (.malformed .badUnicodeEscape (u :: a :: b :: c :: d :: next :: more))
    | some code =>
      if isHighSurrogate code then
        match readLowHalf (next :: more) with
        | .error stop => .error stop
        | .ok none =>
          .ok ⟨charOfUnit runtime code, next :: more, by simp only [List.length_cons]; omega⟩
        | .ok (some ⟨low, rest, shorter⟩) =>
          .ok ⟨charOfPair code low, rest, by simp only [List.length_cons] at *; omega⟩
      else .ok ⟨charOfUnit runtime code, next :: more, by simp only [List.length_cons]; omega⟩
  | input => .error (.malformed .badUnicodeEscape input)

/-- The rest of a string literal behind its opening quote; `opening` is the text from there. -/
def readString (runtime : Runtime) (opening : List Char) : Reader (List Char)
  | [] => .error (.malformed .unterminatedString opening)
  | '"' :: rest => .ok ⟨[], rest, by simp⟩
  | ['\\'] => .error (.malformed .unterminatedString opening)
  | '\\' :: 'u' :: digits =>
    match readUnicode runtime ('u' :: digits) with
    | .error stop => .error stop
    | .ok ⟨c, rest, _⟩ =>
      match readString runtime opening rest with
      | .error stop => .error stop
      | .ok ⟨cs, rest', _⟩ => .ok ⟨c :: cs, rest', by simp only [List.length_cons] at *; omega⟩
  | '\\' :: letter :: rest =>
    match simpleEscape? letter with
    | none => .error (.malformed .badEscape ('\\' :: letter :: rest))
    | some c =>
      match readString runtime opening rest with
      | .error stop => .error stop
      | .ok ⟨cs, rest', _⟩ => .ok ⟨c :: cs, rest', by simp only [List.length_cons] at *; omega⟩
  | c :: rest =>
    if c.toNat < 0x20 then .error (.malformed .controlCharacter (c :: rest))
    else
      match readString runtime opening rest with
      | .error stop => .error stop
      | .ok ⟨cs, rest', _⟩ => .ok ⟨c :: cs, rest', by simp only [List.length_cons] at *; omega⟩
termination_by input => input.length
decreasing_by all_goals simp only [List.length_cons] at *; omega

/-! ## Numbers -/

/-- The digits of a fraction, if a point and a digit follow. -/
def splitFraction : List Char → List Char × List Char
  | '.' :: rest =>
    let digits := rest.takeWhile isAsciiDigit
    if digits.isEmpty then ([], '.' :: rest) else (digits, rest.dropWhile isAsciiDigit)
  | input => ([], input)

/-- The exponent, if a mark, perhaps a sign, and a digit follow. -/
def splitExponent (input : List Char) : Option Int × List Char :=
  match input with
  | [] => (none, input)
  | mark :: rest =>
    if mark = 'e' || mark = 'E' then
      let (negative, body) := splitSign rest
      let digits := body.takeWhile isAsciiDigit
      if digits.isEmpty then (none, input)
      else
        let n : Int := asciiDigitsValue digits
        (some (if negative then -n else n), body.dropWhile isAsciiDigit)
    else (none, input)

theorem length_splitFraction_le (input : List Char) :
    (splitFraction input).2.length ≤ input.length := by
  unfold splitFraction
  split
  · next rest =>
    have := length_dropWhile_le isAsciiDigit rest
    dsimp only
    split <;> simp only [List.length_cons] <;> omega
  · simp

theorem length_splitSign_le (input : List Char) :
    (splitSign input).2.length ≤ input.length := by
  unfold splitSign
  split <;> simp

theorem length_splitExponent_le (input : List Char) :
    (splitExponent input).2.length ≤ input.length := by
  unfold splitExponent
  split
  · simp
  · next mark rest =>
    have h := length_splitSign_le rest
    have h' := length_dropWhile_le isAsciiDigit (splitSign rest).2
    split
    · dsimp only
      split <;> simp only [List.length_cons] <;> omega
    · simp

/-- The number with the given sign and digits before the point, once what follows is known. -/
def numberOf (negative : Bool) (whole fraction : List Char) (exponent : Option Int) :
    Except Stop Value :=
  if fraction.isEmpty && exponent.isNone then
    if maxDigits < whole.length then .error (.tooManyDigits whole.length)
    else .ok (.int (Binary64.signed negative (asciiDigitsValue whole)))
  else
    .ok (.float (Binary64.ofDecimal negative (asciiDigitsValue (whole ++ fraction))
      (exponent.getD 0 - fraction.length)))

/-- The digits before the point: a zero alone, or digits that start with another. -/
def splitWhole : List Char → List Char × List Char
  | [] => ([], [])
  | c :: rest =>
    if c = '0' then (['0'], rest)
    else ((c :: rest).takeWhile isAsciiDigit, (c :: rest).dropWhile isAsciiDigit)

theorem length_splitWhole (input : List Char) :
    (splitWhole input).1.length + (splitWhole input).2.length = input.length := by
  unfold splitWhole
  split
  · rfl
  · next c rest =>
    split
    · simp [Nat.add_comm]
    · rw [← List.length_append, List.takeWhile_append_dropWhile]

/-- A number. -/
def readNumber : Reader Value := fun input =>
  let negative := input.head? = some '-'
  let body := if negative then input.drop 1 else input
  have body_le : body.length ≤ input.length := by
    simp only [body]; split <;> simp
  let whole := splitWhole body
  have whole_length := length_splitWhole body
  if nonempty : whole.1 = [] then .error (.malformed .expectingValue input)
  else
    let fraction := splitFraction whole.2
    let exponent := splitExponent fraction.2
    match numberOf negative whole.1 fraction.1 exponent.1 with
    | .error stop => .error stop
    | .ok value =>
      .ok ⟨value, exponent.2, by
        have h₁ := length_splitFraction_le whole.2
        have h₂ := length_splitExponent_le fraction.2
        have h₃ : 0 < whole.1.length := List.length_pos_iff.mpr nonempty
        simp only [whole, fraction, exponent] at *
        omega⟩

/-! ## Containers -/

/-- The items of an array and its closing bracket, from the first item on. -/
def readItems (item : Reader Value) : Reader (List Value) := fun input =>
  match item input with
  | .error stop => .error stop
  | .ok ⟨value, rest, shorter⟩ =>
    have blank := length_skipBlank_le rest
    match after : skipBlank rest with
    | ']' :: tail => .ok ⟨[value], tail, by simp only [after, List.length_cons] at blank; omega⟩
    | ',' :: tail =>
      have tailShorter : (skipBlank tail).length < input.length := by
        have := length_skipBlank_le tail
        simp only [after, List.length_cons] at blank; omega
      match readItems item (skipBlank tail) with
      | .error stop => .error stop
      | .ok ⟨values, rest', shorter'⟩ => .ok ⟨value :: values, rest', by omega⟩
    | other => .error (.malformed .expectingComma other)
termination_by input => input.length

/-- A member of an object: a name, a colon and a value. -/
def readMember (runtime : Runtime) (value : Reader Value) : Reader (String × Value)
  | '"' :: rest =>
    match readString runtime ('"' :: rest) rest with
    | .error stop => .error stop
    | .ok ⟨name, afterName, shorter⟩ =>
      have blank := length_skipBlank_le afterName
      match after : skipBlank afterName with
      | ':' :: tail =>
        have blank' := length_skipBlank_le tail
        match value (skipBlank tail) with
        | .error stop => .error stop
        | .ok ⟨v, rest', shorter'⟩ =>
          .ok ⟨(String.ofList name, v), rest', by
            simp only [after, List.length_cons] at *; omega⟩
      | other => .error (.malformed .expectingColon other)
  | input => .error (.malformed .expectingName input)

/-- The members of an object and its closing brace, from the first member on. -/
def readMembers (runtime : Runtime) (value : Reader Value) : Reader Members := fun input =>
  match readMember runtime value input with
  | .error stop => .error stop
  | .ok ⟨member, rest, shorter⟩ =>
    have blank := length_skipBlank_le rest
    match after : skipBlank rest with
    | '\x7d' :: tail => .ok ⟨[member], tail, by simp only [after, List.length_cons] at blank; omega⟩
    | ',' :: tail =>
      have tailShorter : (skipBlank tail).length < input.length := by
        have := length_skipBlank_le tail
        simp only [after, List.length_cons] at blank; omega
      match readMembers runtime value (skipBlank tail) with
      | .error stop => .error stop
      | .ok ⟨members, rest', shorter'⟩ => .ok ⟨member :: members, rest', by omega⟩
    | other => .error (.malformed .expectingComma other)
termination_by input => input.length

/-- An array behind its opening bracket. -/
def readArray (item : Reader Value) : Reader Value := fun input =>
  have blank := length_skipBlank_le input
  match after : skipBlank input with
  | ']' :: tail => .ok ⟨.array [], tail, by simp only [after, List.length_cons] at blank; omega⟩
  | first =>
    match readItems item first with
    | .error stop => .error stop
    | .ok ⟨items, rest, shorter⟩ => .ok ⟨.array items, rest, by simp only [after] at blank; omega⟩

/-- An object behind its opening brace. -/
def readObject (runtime : Runtime) (value : Reader Value) : Reader Value := fun input =>
  have blank := length_skipBlank_le input
  match after : skipBlank input with
  | '\x7d' :: tail => .ok ⟨.object [], tail, by simp only [after, List.length_cons] at blank; omega⟩
  | first =>
    match readMembers runtime value first with
    | .error stop => .error stop
    | .ok ⟨members, rest, shorter⟩ =>
      .ok ⟨.object (collectMembers members), rest, by simp only [after] at blank; omega⟩

/-- What has been read, with more text in front of it. -/
def Parsed.behind {α β : Type} {input longer : List Char} (parsed : Parsed α input) (f : α → β)
    (h : input.length ≤ longer.length) : Parsed β longer :=
  ⟨f parsed.value, parsed.rest, Nat.lt_of_lt_of_le parsed.shorter h⟩

/-- A value whose containers hold what `inner` reads; without `inner` no container is read. -/
def readValueWith (runtime : Runtime) (inner : Option (Reader Value)) : Reader Value
  | 'n' :: 'u' :: 'l' :: 'l' :: rest => .ok ⟨.null, rest, by simp only [List.length_cons]; omega⟩
  | 't' :: 'r' :: 'u' :: 'e' :: rest =>
    .ok ⟨.bool true, rest, by simp only [List.length_cons]; omega⟩
  | 'f' :: 'a' :: 'l' :: 's' :: 'e' :: rest =>
    .ok ⟨.bool false, rest, by simp only [List.length_cons]; omega⟩
  | 'N' :: 'a' :: 'N' :: rest => .ok ⟨.float .nan, rest, by simp only [List.length_cons]; omega⟩
  | 'I' :: 'n' :: 'f' :: 'i' :: 'n' :: 'i' :: 't' :: 'y' :: rest =>
    .ok ⟨.float (.infinity false), rest, by simp only [List.length_cons]; omega⟩
  | '-' :: 'I' :: 'n' :: 'f' :: 'i' :: 'n' :: 'i' :: 't' :: 'y' :: rest =>
    .ok ⟨.float (.infinity true), rest, by simp only [List.length_cons]; omega⟩
  | '"' :: rest =>
    (readString runtime ('"' :: rest) rest).map
      (·.behind (fun cs => .string (String.ofList cs)) (by simp))
  | '[' :: rest =>
    match inner with
    | none => .error (.tooDeep .array)
    | some item => (readArray item rest).map (·.behind id (by simp))
  | '\x7b' :: rest =>
    match inner with
    | none => .error (.tooDeep .object)
    | some value => (readObject runtime value rest).map (·.behind id (by simp))
  | input => readNumber input

/-- A value with at most `depth` containers inside each other. -/
def readValue (runtime : Runtime) : Nat → Reader Value
  | 0 => readValueWith runtime none
  | depth + 1 => readValueWith runtime (some (readValue runtime depth))

/-! ## Whole texts -/

/-- The value that a whole text writes. -/
def decode (runtime : Runtime) (text : List Char) : Except Stop Value :=
  if text.head? = some (Char.ofNat 0xFEFF) then .error (.malformed .byteOrderMark text)
  else
    match readValue runtime runtime.depth (skipBlank text) with
    | .error stop => .error stop
    | .ok parsed =>
      match skipBlank parsed.rest with
      | [] => .ok parsed.value
      | rest => .error (.malformed .extraData rest)

/-! ## Places and messages -/

/-- A place in a text: a line and a column, counted from one, and an offset, counted from zero. -/
structure Position where
  line : Nat
  column : Nat
  offset : Nat
  deriving DecidableEq, Repr

/-- The place in `text` from which on `rest` is left. -/
def positionOf (text rest : List Char) : Position :=
  let offset := text.length - rest.length
  let before := text.take offset
  { line := before.count '\n' + 1
    column := (before.reverse.takeWhile (· ≠ '\n')).length + 1
    offset }

/-- What is wrong with the text. -/
def Fault.message : Fault → String
  | .expectingValue => "Expecting value"
  | .expectingName => "Expecting property name enclosed in double quotes"
  | .expectingColon => "Expecting ':' delimiter"
  | .expectingComma => "Expecting ',' delimiter"
  | .extraData => "Extra data"
  | .unterminatedString => "Unterminated string starting at"
  | .controlCharacter => "Invalid control character at"
  | .badEscape => "Invalid \\escape"
  | .badUnicodeEscape => "Invalid \\uXXXX escape"
  | .byteOrderMark => "Unexpected UTF-8 BOM (decode using utf-8-sig)"

/-- What is wrong with the text, and where. -/
def faultMessage (fault : Fault) (position : Position) : String :=
  s!"{fault.message}: line {position.line} column {position.column} (char {position.offset})"

/-- The word for the container. -/
def Container.name : Container → String
  | .array => "array"
  | .object => "object"

/-- The message for a text nested too deeply. -/
def tooDeepMessage (container : Container) : String :=
  s!"maximum recursion depth exceeded while decoding a JSON {container.name} from a unicode string"

/-- The message for a value nested too deeply to be written. -/
def tooDeepToWriteMessage : String :=
  "maximum recursion depth exceeded while encoding a JSON object"

end VmScan.Json
