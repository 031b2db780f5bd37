import VmScan.Json.Value

/-!
# Requests and completions

* `Request` — what is asked of a model, and `Request.toJson`, its written form. Empty texts for
  the key and the address are left out.
* `Completion` — what a provider answers.
* `Answer` — the text of a completion with the tokens it took (`LLMCallResult`); what the provider
  leaves out is empty or zero.
-/

namespace VmScan

open VmScan.Json
open VmScan.Number

/-- One message to a model. -/
structure Message where
  role : String
  content : String
  deriving DecidableEq, Repr

/-- What is asked of a model. -/
structure Request where
  model : String
  messages : List Message
  /-- The seconds after which the provider gives up. -/
  timeout : Int
  apiKey : Option String := none
  baseUrl : Option String := none
  jsonOnly : Bool := true
  deriving DecidableEq, Repr

namespace Request

/-- The greatest number of tokens of an answer. -/
def maxOutputTokens : Int := 4096

/-- How much answers to one request may differ. -/
def temperature : Binary64 := Binary64.nearest false 1 10

/-- A member whose text is neither absent nor empty. -/
def givenMember (name : String) (text : Option String) : Members :=
  match text with
  | none => []
  | some text => if text = "" then [] else [(name, .string text)]

/-- A message as a value. -/
def messageToJson (message : Message) : Value :=
  .object [("role", .string message.role), ("content", .string message.content)]

/-- The members of a request as it is written. -/
def members (request : Request) : Members :=
  [ ("model", .string request.model),
    ("messages", .array (request.messages.map messageToJson)),
    ("timeout", .int request.timeout),
    ("temperature", .float temperature),
    ("max_tokens", .int maxOutputTokens) ]
  ++ givenMember "api_key" request.apiKey
  ++ givenMember "api_base" request.baseUrl
  ++ (if request.jsonOnly then
      [("response_format", .object [("type", .string "json_object")])] else [])

/-- A request as a value. -/
def toJson (request : Request) : Value :=
  .object request.members

end Request

/-- The tokens that a completion took, as far as the provider tells. -/
structure Usage where
  input : Option Int := none
  output : Option Int := none
  deriving DecidableEq, Repr

/-- What a provider answers. -/
structure Completion where
  text : Option String
  usage : Option Usage := none
  deriving DecidableEq, Repr

/-- The text of a model with the tokens it took. -/
structure Answer where
  text : String
  model : String
  inputTokens : Int
  outputTokens : Int
  deriving DecidableEq, Repr

/-- The answer in a completion of the model. -/
def Completion.answer (completion : Completion) (model : String) : Answer where
  text := completion.text.getD ""
  model
  inputTokens := (completion.usage.bind (·.input)).getD 0
  outputTokens := (completion.usage.bind (·.output)).getD 0

end VmScan
