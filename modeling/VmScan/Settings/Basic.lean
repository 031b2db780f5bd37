import VmScan.Log.Level
import VmScan.Model.Client

/-!
# Settings

* `Settings` — everything that can be set, with the values that hold where nothing is set.
* `Settings.modelConfig?` — the model that is to be asked (`resolve_llm_config`): the one of the
  named provider, if that provider is known and has a key. What is set for all providers goes before
  what is set for one.
* `Settings.providerWarning?` — the warning that an unknown provider causes.
* `Settings.client?` — the model with the way in which it is asked.
-/

namespace VmScan

/-- What is set for one provider. -/
structure Account where
  apiKey : String := ""
  model : String := ""
  baseUrl : String := ""
  deriving DecidableEq, Repr

/-- The ways to count tokens. -/
inductive Counting where
  /-- With the encoding of a model. -/
  | encoding
  /-- By the length of the text. -/
  | estimate
  deriving DecidableEq, Repr

/-- The name of a way to count tokens. -/
def Counting.name : Counting → String
  | .encoding => "tiktoken"
  | .estimate => "estimate"

/-- The way to count tokens with the given name. -/
def Counting.ofName? (name : String) : Option Counting :=
  [Counting.encoding, .estimate].find? (·.name = name)

/-- Everything that can be set. -/
structure Settings where
  provider : String := "openai"
  openai : Account := {}
  anthropic : Account := {}
  google : Account := {}
  /-- The model, whatever the provider. -/
  model : String := ""
  /-- The address, whatever the provider. -/
  baseUrl : String := ""
  /-- The seconds after which a provider gives up. -/
  timeout : Int := 60
  charLimit : Int := 300
  maxTokens : Int := 8000
  counting : Counting := .encoding
  countingModel : String := "gpt-4o"
  /-- Whether scripts are laid out anew. -/
  beautify : Bool := true
  language : String := "Chinese"
  logLevel : LogLevel := .info
  deriving DecidableEq, Repr

namespace Settings

/-- What is set for the provider. -/
def account (settings : Settings) : Provider → Account
  | .openai => settings.openai
  | .anthropic => settings.anthropic
  | .google => settings.google

/-- The first of the texts that is not empty. -/
def firstGiven? (texts : List String) : Option String :=
  texts.find? (· ≠ "")

/-- The model of the provider that is to be asked, if the provider has a key. -/
def modelConfigOf? (settings : Settings) (provider : Provider) : Option ModelConfig :=
  let account := settings.account provider
  if account.apiKey = "" then none
  else some {
    provider
    apiKey := account.apiKey
    model := (firstGiven? [settings.model, account.model]).getD provider.defaultModel
    baseUrl := firstGiven? [settings.baseUrl, account.baseUrl] }

/-- The model that is to be asked, if the provider is known and has a key. -/
def modelConfig? (settings : Settings) : Option ModelConfig :=
  (Provider.find? settings.provider).bind settings.modelConfigOf?

/-- The warning that looking for the model causes. -/
def providerWarning? (settings : Settings) : Option String :=
  match Provider.find? settings.provider with
  | some _ => none
  | none => some s!"event=invalid_llm_provider value={settings.provider} valid={Provider.names}"

/-- The model that is to be asked, with the way in which it is asked. -/
def clientOf (settings : Settings) (config : ModelConfig) : Client where
  config
  language := settings.language
  timeout := settings.timeout

/-- The model that is to be asked, if there is one, with the way in which it is asked. -/
def client? (settings : Settings) : Option Client :=
  settings.modelConfig?.map settings.clientOf

end Settings

end VmScan
