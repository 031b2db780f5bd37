import VmScan.Text.Blank
import VmScan.Text.Case
import VmScan.Text.Quoted

/-!
# Providers

* `Provider` — the providers of models, with their names, default models and routes
  (`LLMProvider`).
* `Provider.find?` — the provider of a name, without regard to case and outer blanks
  (`validate_provider`).
* `ModelConfig` — what connects to one model of a provider (`LLMConfig`).
-/

namespace VmScan

/-- The providers of models. -/
inductive Provider where
  | openai
  | anthropic
  | google
  deriving DecidableEq, Repr

namespace Provider

/-- All providers, in the order in which messages list them. -/
def all : List Provider := [.openai, .anthropic, .google]

/-- The name of a provider. -/
def name : Provider → String
  | .openai => "openai"
  | .anthropic => "anthropic"
  | .google => "google"

/-- The name of a provider at the start of a sentence. -/
def title : Provider → String
  | .openai => "Openai"
  | .anthropic => "Anthropic"
  | .google => "Google"

/-- The first part of the names of the models of a provider in requests. -/
def route : Provider → String
  | .openai => "openai"
  | .anthropic => "anthropic"
  | .google => "gemini"

/-- The model that is asked where none is named. -/
def defaultModel : Provider → String
  | .openai => "gpt-4o-mini"
  | .anthropic => "claude-sonnet-4-20250514"
  | .google => "gemini-2.0-flash"

/-- The provider with exactly the given name. -/
def ofName? (name : String) : Option Provider :=
  all.find? (·.name = name)

/-- The provider with the given name, without regard to case and outer blanks. -/
def find? (name : String) : Option Provider :=
  ofName? (Text.lower (Text.trim name))

/-- The names of all providers as messages list them. -/
def names : String :=
  ", ".intercalate (all.map (·.name))

/-- The message for a name that no provider has. -/
def unknownMessage (name : String) : String :=
  Text.quoted name ++ " is not a valid LLMProvider"

end Provider

/-- What connects to one model of a provider. -/
structure ModelConfig where
  provider : Provider
  apiKey : String
  model : String
  baseUrl : Option String := none
  deriving DecidableEq, Repr

/-- The name of the model in requests. -/
def ModelConfig.routedModel (config : ModelConfig) : String :=
  s!"{config.provider.route}/{config.model}"

end VmScan
