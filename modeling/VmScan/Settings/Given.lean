import VmScan.Json.Value
import VmScan.Number.Integer
import VmScan.Settings.Basic

/-!
# Given settings

Settings from a row of named values, such as those of an environment, where every value is a
text. All values are looked at, and all that are refused are told, in the order of the settings.

* `Invalid` — a setting whose value is refused.
* `textOf`, `integerOf`, `truthOf` — values of the three kinds of settings.
* `Settings.ofGiven` — the settings; a name that no setting has is passed over. Some settings have
  rules of their own (`_normalize_provider`, `_validate_tokenizer`, `_validate_log_level`,
  `_validate_positive`).
-/

namespace VmScan

open VmScan.Json
open VmScan.Number

namespace Settings

/-- Why a value is refused. -/
inductive Refusal where
  | noText
  | noInteger
  | unreadableInteger
  | overlongInteger
  | fractionalInteger
  | infiniteInteger
  | noTruth
  | unreadableTruth
  /-- A rule of the setting itself, with its message. -/
  | rule (message : String)
  deriving DecidableEq, Repr

/-- The class of a refusal. -/
def Refusal.label : Refusal → String
  | .noText => "string_type"
  | .noInteger => "int_type"
  | .unreadableInteger => "int_parsing"
  | .overlongInteger => "int_parsing_size"
  | .fractionalInteger => "int_from_float"
  | .infiniteInteger => "finite_number"
  | .noTruth => "bool_type"
  | .unreadableTruth => "bool_parsing"
  | .rule _ => "value_error"

/-- The message of a refusal. -/
def Refusal.message : Refusal → String
  | .noText => "Input should be a valid string"
  | .noInteger => "Input should be a valid integer"
  | .unreadableInteger => "Input should be a valid integer, unable to parse string as an integer"
  | .overlongInteger => "Unable to parse input string as an integer, exceeded maximum size"
  | .fractionalInteger =>
    "Input should be a valid integer, got a number with a fractional part"
  | .infiniteInteger => "Input should be a finite number"
  | .noTruth => "Input should be a valid boolean"
  | .unreadableTruth => "Input should be a valid boolean, unable to interpret input"
  | .rule message => "Value error, " ++ message

/-- A setting whose value is refused. -/
structure Invalid where
  field : String
  refusal : Refusal
  deriving DecidableEq, Repr

/-! ## Kinds of values -/

/-- A text. -/
def textOf : Value → Except Refusal String
  | .string text => .ok text
  | _ => .error .noText

/-- Whether the character is a blank around a number. The information separators are none. -/
def isOuterBlank (c : Char) : Bool :=
  Text.isBlank c && !(0x1C ≤ c.toNat && c.toNat ≤ 0x1F)

/-- The text without blanks around it. -/
def stripOuter (cs : List Char) : List Char :=
  ((cs.dropWhile isOuterBlank).reverse.dropWhile isOuterBlank).reverse

/-- The text without a fraction that is zero. -/
def dropZeroFraction (cs : List Char) : List Char :=
  match cs.reverse.dropWhile (· = '0') with
  | '.' :: whole => if cs.getLast? = some '0' then whole.reverse else cs
  | _ => cs

/-- The digits of a group with single underscores between digits. -/
def asciiGroup? (cs : List Char) : Option (List Char) :=
  if cs.all fun c => Text.isAsciiDigit c || c = '_' then groupedDigits? cs else none

/-- The integer that a text writes: a sign, digits with single underscores between them, and a
fraction of zeros are allowed. -/
def readInteger (text : String) : Except Refusal Int :=
  let (negative, body) := splitSign (stripOuter text.toList)
  match asciiGroup? (dropZeroFraction body) with
  | none => .error .unreadableInteger
  | some digits =>
    if maxDigits < digits.length then .error .overlongInteger
    else .ok (Binary64.signed negative (digitsValue digits))

/-- An integer. -/
def integerOf : Value → Except Refusal Int
  | .int n => .ok n
  | .bool b => .ok (if b then 1 else 0)
  | .string text => readInteger text
  | .float x =>
    match x.toInt?, x with
    | some n, _ => .ok n
    | none, .finite .. => .error .fractionalInteger
    | none, _ => .error .infiniteInteger
  | _ => .error .noInteger

/-- The words for a truth value. -/
def truthWords : List (String × Bool) := [
  ("0", false), ("f", false), ("n", false), ("no", false), ("off", false), ("false", false),
  ("1", true), ("t", true), ("y", true), ("on", true), ("yes", true), ("true", true)]

/-- A truth value. -/
def truthOf : Value → Except Refusal Bool
  | .bool b => .ok b
  | .string text =>
    match truthWords.find? fun (word, _) => word = text.map Char.toLower with
    | some (_, b) => .ok b
    | none => .error .unreadableTruth
  | value =>
    match integerOf value with
    | .ok 0 => .ok false
    | .ok 1 => .ok true
    | .ok _ => .error .unreadableTruth
    | .error _ => .error .noTruth

/-! ## Rules of single settings -/

/-- The name of a provider, in lower case and without outer blanks. -/
def providerName (value : Value) : Except Refusal String :=
  (textOf value).map fun name => Text.lower (Text.trim name)

/-- A number that must be positive. -/
def positiveOf (value : Value) : Except Refusal Int := do
  let n ← integerOf value
  if n ≤ 0 then .error (.rule "must be a positive integer") else .ok n

/-- A way to count tokens. -/
def countingOf (value : Value) : Except Refusal Counting := do
  match Counting.ofName? (← textOf value) with
  | some counting => .ok counting
  | none => .error (.rule "tokenizer must be 'tiktoken' or 'estimate'")

/-- A log level. -/
def logLevelOf (value : Value) : Except Refusal LogLevel := do
  let name ← textOf value
  match LogLevel.find? name with
  | some level => .ok level
  | none => .error (.rule (LogLevel.unknownMessage name))

/-! ## All settings -/

/-- The value of the setting `name`, with `default` where none is given; a refused value is added
to the refused ones. -/
def setting {α : Type} (given : Members) (name : String) (read : Value → Except Refusal α)
    (default : α) : StateM (List Invalid) α := fun invalid =>
  match Json.get? given name with
  | none => (default, invalid)
  | some value =>
    match read value with
    | .ok a => (a, invalid)
    | .error refusal => (default, invalid ++ [{ field := name, refusal }])

/-- The settings with the given values, and the refused values. -/
def readAll (given : Members) : StateM (List Invalid) Settings := do
  let base : Settings := {}
  let provider ← setting given "llm_provider" providerName base.provider
  let openaiKey ← setting given "openai_api_key" textOf base.openai.apiKey
  let anthropicKey ← setting given "anthropic_api_key" textOf base.anthropic.apiKey
  let googleKey ← setting given "google_api_key" textOf base.google.apiKey
  let model ← setting given "llm_model" textOf base.model
  let openaiModel ← setting given "openai_model" textOf base.openai.model
  let anthropicModel ← setting given "anthropic_model" textOf base.anthropic.model
  let googleModel ← setting given "google_model" textOf base.google.model
  let baseUrl ← setting given "llm_base_url" textOf base.baseUrl
  let openaiUrl ← setting given "openai_base_url" textOf base.openai.baseUrl
  let anthropicUrl ← setting given "anthropic_base_url" textOf base.anthropic.baseUrl
  let googleUrl ← setting given "google_base_url" textOf base.google.baseUrl
  let timeout ← setting given "llm_timeout_seconds" integerOf base.timeout
  let charLimit ← setting given "char_limit" positiveOf base.charLimit
  let maxTokens ← setting given "max_tokens_per_batch" positiveOf base.maxTokens
  let counting ← setting given "tokenizer" countingOf base.counting
  let countingModel ← setting given "tokenizer_model" textOf base.countingModel
  let beautify ← setting given "beautify" truthOf base.beautify
  let language ← setting given "response_language" textOf base.language
  let logLevel ← setting given "log_level" logLevelOf base.logLevel
  return {
    provider
    openai := { apiKey := openaiKey, model := openaiModel, baseUrl := openaiUrl }
    anthropic := { apiKey := anthropicKey, model := anthropicModel, baseUrl := anthropicUrl }
    google := { apiKey := googleKey, model := googleModel, baseUrl := googleUrl }
    model, baseUrl, timeout, charLimit, maxTokens, counting, countingModel, beautify, language
    logLevel }

/-- The settings with the given values, unless one of them is refused. -/
def ofGiven (given : Members) : Except (List Invalid) Settings :=
  match readAll given [] with
  | (settings, []) => .ok settings
  | (_, invalid) => .error invalid

end Settings

end VmScan
