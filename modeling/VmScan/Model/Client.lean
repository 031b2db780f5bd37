import VmScan.Model.Call
import VmScan.Model.Prompt
import VmScan.Model.Provider

/-!
# Asking a model about a script

* `Client` — a model with the language and the patience with which it is asked.
* `Client.request` — what it is asked about the lines of a batch.
* `Client.analyze` — the text that it answers; a failure names the provider
  (`create_model_client`).
-/

namespace VmScan

/-- A model with the way in which it is asked. -/
structure Client where
  config : ModelConfig
  /-- The language of the free texts in its answers. -/
  language : String
  /-- The seconds after which the provider gives up. -/
  timeout : Int
  deriving DecidableEq, Repr

namespace Client

/-- What the model is asked about the lines of a batch. -/
def request (client : Client) (code : String) : Request where
  model := client.config.routedModel
  messages := [
    { role := "system", content := Prompt.systemPrompt client.language },
    { role := "user", content := Prompt.userPrompt code }]
  timeout := client.timeout
  apiKey := some client.config.apiKey
  baseUrl := client.config.baseUrl

/-- A failed request, with the provider named in front. -/
def requestFailed (client : Client) (failure : Failure) : Failure :=
  failure.wrap {
    name := "ModelRequestError"
    text := s!"{client.config.provider.title} LLM request failed: {failure.text}" }

/-- What the model answers about the lines of a batch. -/
def analyze {m : Type → Type} [Monad m] (transport : Transport m) (client : Client)
    (code : String) : StateT Registry m (Except Failure String) := do
  match ← Model.call transport (client.request code) with
  | .ok answer => return .ok answer.text
  | .error failure => return .error (client.requestFailed failure)

end Client

end VmScan
