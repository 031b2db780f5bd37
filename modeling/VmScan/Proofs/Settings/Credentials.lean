import VmScan.Proofs.Json.Addresses
import VmScan.Proofs.Model.Retries
import VmScan.Settings.Basic

/-!
# What a provider is asked with

The model that is asked (`resolve_llm_config`) is that of the provider that the settings name, with
the key, the model and the address of that provider alone. Two settings that agree on these, and on
what goes before them for every provider, ask in the same way, whatever they hold for the other
providers.

* `Provider.IsNamedBy` — a text that names a provider.
* `FirstNonEmpty` — the first of several texts that is not empty.
* `Settings.Configures` — the connection that settings stand for.
* `Settings.AgreesOnSelected` — settings that differ at most in what no request may carry.
* `ModelConfig.Asks` — the arguments of a request with a connection.

Results:
* `Provider.find?_eq_some_iff`, `firstGiven?_eq_some_iff`: how names and fallbacks are resolved.
* `modelConfig?_eq_none_iff`, `modelConfig?_eq_some_iff`: when there is a connection, and which.
* `modelConfig?_congr`: only what is set for the named provider counts.
* `log_analyze`, `log_eq_nil_iff`: all that a client sends is its request, unless it is refused.
* `asks_request`: that request carries its connection.
* `credentials_stay_apart`: all of it, for every world in which the client is used.
-/

namespace VmScan

open VmScan.Json VmScan.Model

/-! ## Names of providers -/

namespace Provider

/-- The text names the provider, without regard to case and outer blanks. -/
def IsNamedBy (provider : Provider) (text : String) : Prop :=
  Text.lower (Text.trim text) = provider.name

instance (provider : Provider) (text : String) : Decidable (provider.IsNamedBy text) :=
  inferInstanceAs (Decidable (_ = _))

theorem ofName?_eq_some_iff {name : String} {provider : Provider} :
    ofName? name = some provider ↔ name = provider.name := by
  constructor
  · intro h
    have hname := List.find?_some (show all.find? (·.name = name) = some provider from h)
    exact (of_decide_eq_true hname).symm
  · rintro rfl
    cases provider <;> rfl

/-- The provider of a text is the one that it names. -/
theorem find?_eq_some_iff {text : String} {provider : Provider} :
    find? text = some provider ↔ provider.IsNamedBy text :=
  ofName?_eq_some_iff

theorem find?_eq_none_iff {text : String} :
    find? text = none ↔ ∀ provider : Provider, ¬ provider.IsNamedBy text := by
  simp only [Option.eq_none_iff_forall_ne_some, ne_eq, find?_eq_some_iff]

theorem defaultModel_ne_empty (provider : Provider) : provider.defaultModel ≠ "" := by
  cases provider <;> decide

end Provider

/-! ## Fallbacks -/

/-- The text is the first of the texts that is not empty. -/
def FirstNonEmpty (texts : List String) (text : String) : Prop :=
  text ≠ "" ∧ ∃ before behind, texts = before ++ text :: behind ∧ ∀ earlier ∈ before, earlier = ""

namespace Settings

theorem firstGiven?_eq_some_iff {texts : List String} {text : String} :
    firstGiven? texts = some text ↔ FirstNonEmpty texts text := by
  simp only [firstGiven?, List.find?_eq_some_iff_append, FirstNonEmpty, decide_not,
    Bool.not_eq_eq_eq_not, Bool.not_true, decide_eq_false_iff_not, Bool.not_not, decide_eq_true_eq,
    ne_eq]

/-- A default behind the texts that is not empty is taken where all of them are. -/
theorem firstGiven?_concat (texts : List String) {default : String} (hdefault : default ≠ "") :
    firstGiven? (texts ++ [default]) = some ((firstGiven? texts).getD default) := by
  have hlast : firstGiven? [default] = some default :=
    List.find?_cons_of_pos (decide_eq_true hdefault)
  rw [firstGiven?, List.find?_append, ← firstGiven?, ← firstGiven?, hlast]
  cases firstGiven? texts <;> rfl

/-! ## The connection -/

/-- The connection is the one that the settings stand for: that of the provider that they name,
with its key, which is not empty, and with the first model and the first address that are given. No
address need be given. -/
structure Configures (settings : Settings) (config : ModelConfig) : Prop where
  named : config.provider.IsNamedBy settings.provider
  apiKey : config.apiKey = (settings.account config.provider).apiKey
  keyed : config.apiKey ≠ ""
  model : FirstNonEmpty
    [settings.model, (settings.account config.provider).model, config.provider.defaultModel]
    config.model
  baseUrl : ∀ url, config.baseUrl = some url ↔
    FirstNonEmpty [settings.baseUrl, (settings.account config.provider).baseUrl] url

/-- Two settings name the same provider and agree on what is set for it, on what is set for all
providers, and on the way of asking. -/
structure AgreesOnSelected (settings other : Settings) : Prop where
  provider : other.provider = settings.provider
  model : other.model = settings.model
  baseUrl : other.baseUrl = settings.baseUrl
  timeout : other.timeout = settings.timeout
  language : other.language = settings.language
  account : ∀ provider : Provider, provider.IsNamedBy settings.provider →
    other.account provider = settings.account provider

theorem Configures.baseUrl_ne_empty {settings : Settings} {config : ModelConfig}
    (h : settings.Configures config) : config.baseUrl ≠ some "" :=
  fun hempty => ((h.baseUrl "").mp hempty).1 rfl

section Connection

variable {settings other : Settings} {provider : Provider} {config : ModelConfig}

theorem modelConfig?_of_isNamedBy (hnamed : provider.IsNamedBy settings.provider) :
    settings.modelConfig? = settings.modelConfigOf? provider := by
  rw [modelConfig?, Provider.find?_eq_some_iff.mpr hnamed, Option.bind_some]

theorem modelConfigOf?_eq_none_iff :
    settings.modelConfigOf? provider = none ↔ (settings.account provider).apiKey = "" := by
  rw [modelConfigOf?]
  split <;> simp [*]

/-- There is no connection exactly if no provider is named, or the named one has no key. -/
theorem modelConfig?_eq_none_iff : settings.modelConfig? = none ↔
    (∀ provider : Provider, ¬ provider.IsNamedBy settings.provider) ∨
      ∃ provider : Provider, provider.IsNamedBy settings.provider ∧
        (settings.account provider).apiKey = "" := by
  rw [← Provider.find?_eq_none_iff, modelConfig?, Option.bind_eq_none_iff]
  simp only [modelConfigOf?_eq_none_iff, ← Provider.find?_eq_some_iff]
  cases Provider.find? settings.provider with
  | none => simp
  | some provider => simp

theorem modelConfigOf?_eq_some_iff : settings.modelConfigOf? provider = some config ↔
    (settings.account provider).apiKey ≠ "" ∧ config =
      { provider
        apiKey := (settings.account provider).apiKey
        model := (firstGiven? [settings.model, (settings.account provider).model]).getD
          provider.defaultModel
        baseUrl := firstGiven? [settings.baseUrl, (settings.account provider).baseUrl] } := by
  rw [modelConfigOf?]
  split_ifs with hkey
  · exact iff_of_false (fun h => by cases h) (fun h => h.1 hkey)
  · rw [Option.some_inj, eq_comm]
    exact (and_iff_right hkey).symm

/-- **The connection of the settings** is the one that they stand for. -/
theorem modelConfig?_eq_some_iff :
    settings.modelConfig? = some config ↔ settings.Configures config := by
  have hmodel (provider : Provider) := firstGiven?_concat
    [settings.model, (settings.account provider).model] provider.defaultModel_ne_empty
  constructor
  · intro h
    obtain ⟨provider, hprovider, hconfig⟩ := Option.bind_eq_some_iff.mp h
    obtain ⟨hkey, rfl⟩ := modelConfigOf?_eq_some_iff.mp hconfig
    exact ⟨Provider.find?_eq_some_iff.mp hprovider, rfl, hkey,
      firstGiven?_eq_some_iff.mp (hmodel provider), fun url => firstGiven?_eq_some_iff⟩
  · rintro ⟨hnamed, hkey, hkeyed, hfirst, hurl⟩
    rw [modelConfig?_of_isNamedBy hnamed, modelConfigOf?_eq_some_iff]
    refine ⟨hkey ▸ hkeyed, ?_⟩
    have hgiven : some config.model = some _ :=
      (firstGiven?_eq_some_iff.mpr hfirst).symm.trans (hmodel config.provider)
    have haddress : config.baseUrl
        = firstGiven? [settings.baseUrl, (settings.account config.provider).baseUrl] :=
      Option.ext fun url => (hurl url).trans firstGiven?_eq_some_iff.symm
    rw [← Option.some.inj hgiven, ← haddress, ← hkey]

/-- Only what is set for the named provider counts. -/
theorem modelConfig?_congr (h : settings.AgreesOnSelected other) :
    other.modelConfig? = settings.modelConfig? := by
  rw [modelConfig?, modelConfig?, h.provider]
  cases hprovider : Provider.find? settings.provider with
  | none => rfl
  | some provider =>
    have haccount := h.account provider (Provider.find?_eq_some_iff.mp hprovider)
    rw [Option.bind_some, Option.bind_some, modelConfigOf?, modelConfigOf?, haccount, h.model,
      h.baseUrl]

theorem client?_congr (h : settings.AgreesOnSelected other) : other.client? = settings.client? := by
  have hclient : other.clientOf = settings.clientOf := by
    funext config
    rw [clientOf, clientOf, h.language, h.timeout]
  rw [client?, client?, modelConfig?_congr h, hclient]

end Connection

end Settings

/-! ## Requests -/

/-- The arguments of a request ask the model of a connection about lines of code, in a language:
with the key of the connection, and with its address if it has one. -/
structure ModelConfig.Asks (config : ModelConfig) (language code : String)
    (arguments : Members) : Prop where
  model : get? arguments "model" = some (.string (config.provider.route ++ "/" ++ config.model))
  messages : get? arguments "messages" = some (.array [
    .object [("role", .string "system"), ("content", .string (Prompt.systemPrompt language))],
    .object [("role", .string "user"), ("content", .string (Prompt.userPrompt code))]])
  apiKey : get? arguments "api_key" = some (.string config.apiKey)
  apiBase : get? arguments "api_base" = config.baseUrl.map .string

theorem givenMember_of_ne {name text : String} (h : text ≠ "") :
    Request.givenMember name (some text) = [(name, .string text)] :=
  if_neg h

/-- The request of a client asks with its connection. -/
theorem asks_request (client : Client) (code : String) (hkey : client.config.apiKey ≠ "")
    (hurl : client.config.baseUrl ≠ some "") :
    client.config.Asks client.language code (client.request code).members := by
  have hmembers : (client.request code).members =
      [ ("model", .string client.config.routedModel),
        ("messages", .array ((client.request code).messages.map Request.messageToJson)),
        ("timeout", .int client.timeout),
        ("temperature", .float Request.temperature),
        ("max_tokens", .int Request.maxOutputTokens),
        ("api_key", .string client.config.apiKey) ]
      ++ (Request.givenMember "api_base" client.config.baseUrl
        ++ [("response_format", .object [("type", .string "json_object")])]) := by
    rw [Request.members, Client.request, givenMember_of_ne hkey]
    simp
  rw [hmembers]
  refine ⟨rfl, rfl, rfl, ?_⟩
  cases haddress : client.config.baseUrl with
  | none => rfl
  | some url =>
    rw [givenMember_of_ne fun hempty => hurl (by rw [haddress, hempty])]
    rfl

namespace Model

variable {σ : Type}

/-- A call in a world in which requests are written down ends as it does without, and its request
is written down once for each reply. -/
theorem runIn_call_logged (transport : Transport (StateM σ)) (request : Request)
    (s : Registry × σ) (log : List Sent) :
    runIn (call (logged transport) request) (s.1, s.2, log) =
      let done := (course transport request s).log request log
      (done.outcome.map (·.answer request.model), done.after) := by
  have hlogged : course (logged transport) request (s.1, s.2, log)
      = (course transport request s).log request log :=
    trials_logged transport request 0 2 s log
  rw [runIn_call, hlogged]

theorem after_analyze (transport : Transport (StateM σ)) (client : Client) (code : String)
    (s : Registry × σ) : (runIn (client.analyze transport code) s).2
      = (runIn (call transport (client.request code)) s).2 := by
  rw [Client.analyze, runIn_bind]
  cases (runIn (call transport (client.request code)) s).1 <;> rfl

/-- What is written down about a client is its request, once for each reply. -/
theorem log_analyze (transport : Transport (StateM σ)) (client : Client) (code : String)
    (s : Registry × σ) :
    (runIn (client.analyze (logged transport) code) (s.1, s.2, [])).2.2.2 =
      (course transport (client.request code) s).replies.map fun reply =>
        (client.request code, reply.outcome) := by
  rw [after_analyze, runIn_call_logged]
  rfl

/-- A client sends nothing exactly if its request is refused. -/
theorem log_eq_nil_iff {transport : Transport (StateM σ)} {client : Client} {code : String}
    {s : Registry × σ} :
    (runIn (client.analyze (logged transport) code) (s.1, s.2, [])).2.2.2 = [] ↔
      Refused transport (client.request code) s := by
  rw [log_analyze, List.map_eq_nil_iff, replies_course_eq_nil_iff, refused_iff]

/-- All that a client sends about lines of code is its request. -/
theorem request_of_mem_log {transport : Transport (StateM σ)} {client : Client} {code : String}
    {s : Registry × σ} {entry : Sent}
    (h : entry ∈ (runIn (client.analyze (logged transport) code) (s.1, s.2, [])).2.2.2) :
    entry.1 = client.request code := by
  rw [log_analyze] at h
  obtain ⟨reply, -, rfl⟩ := List.mem_map.mp h
  rfl

end Model

namespace Settings

/-- **No credentials of a provider reach another.** Settings that differ at most in what no request
may carry stand for the same connection. There is none exactly if no provider is named or the named
one has no key, and otherwise it is that of the named provider, with the fallbacks that it has. The
clients of both settings do the same about any lines of code, in every world: they send at least one
request unless the breaker of the model refuses it, and each that they send carries this
connection. -/
theorem credentials_stay_apart (settings other : Settings) (h : settings.AgreesOnSelected other) :
    other.modelConfig? = settings.modelConfig? ∧
      (settings.modelConfig? = none ↔
        (∀ provider : Provider, ¬ provider.IsNamedBy settings.provider) ∨
          ∃ provider : Provider, provider.IsNamedBy settings.provider ∧
            (settings.account provider).apiKey = "") ∧
      (∀ config, settings.modelConfig? = some config ↔ settings.Configures config) ∧
      other.client? = settings.client? ∧
      ∀ client otherClient, settings.client? = some client → other.client? = some otherClient →
        ∀ (σ : Type) (transport : Transport (StateM σ)) (registry : Registry) (w : σ)
          (code : String),
          let run := runIn (client.analyze (logged transport) code) (registry, w, [])
          runIn (otherClient.analyze (logged transport) code) (registry, w, []) = run ∧
            settings.Configures client.config ∧
            (run.2.2.2 = [] ↔ Refused transport (client.request code) (registry, w)) ∧
            ∀ entry ∈ run.2.2.2,
              client.config.Asks settings.language code entry.1.members := by
  refine ⟨modelConfig?_congr h, modelConfig?_eq_none_iff, fun config => modelConfig?_eq_some_iff,
    client?_congr h, ?_⟩
  intro client otherClient hclient hother σ transport registry w code
  obtain ⟨config, hconfig, rfl⟩ := Option.map_eq_some_iff.mp hclient
  have hconfigures := modelConfig?_eq_some_iff.mp hconfig
  rw [client?_congr h, hclient] at hother
  obtain rfl := Option.some.inj hother
  refine ⟨rfl, hconfigures, log_eq_nil_iff (s := (registry, w)), fun entry hentry => ?_⟩
  rw [request_of_mem_log (s := (registry, w)) hentry]
  exact asks_request _ code hconfigures.keyed hconfigures.baseUrl_ne_empty

/-- Settings that name one provider, with the same account for the others. -/
def ownAndOthers (account : Account) : Settings where
  provider := " OpenAI"
  openai := { apiKey := "own", baseUrl := "https://own.test" }
  anthropic := account
  google := account

/-- The connection with the key and the address of the named provider, and its default model. -/
def ownConnection : ModelConfig where
  provider := .openai
  apiKey := "own"
  model := "gpt-4o-mini"
  baseUrl := some "https://own.test"

/-- The key, the model and the address of other providers do not replace what is missing, and the
one request that is sent carries none of them. -/
theorem credentials_stay_apart_ownAndOthers :
    let none := ownAndOthers {}
    let foreign := ownAndOthers { apiKey := "other", model := "other", baseUrl := "other" }
    none.AgreesOnSelected foreign ∧ foreign.modelConfig? = some ownConnection ∧
      ∃ client, foreign.client? = some client ∧
        let log := (runIn (client.analyze (logged scripted) "x")
          ([], { outcomes := [late] }, [])).2.2.2
        log.length = 1 ∧
          ∀ entry ∈ log, ownConnection.Asks "Chinese" "x" entry.1.members := by
  intro none foreign
  have hagree : none.AgreesOnSelected foreign := by
    refine ⟨rfl, rfl, rfl, rfl, rfl, fun provider hnamed => ?_⟩
    cases provider with
    | openai => rfl
    | anthropic => exact absurd hnamed (by decide +kernel)
    | google => exact absurd hnamed (by decide +kernel)
  obtain ⟨hsame, -, -, hclients, hruns⟩ := credentials_stay_apart none foreign hagree
  have hconfig : none.modelConfig? = some ownConnection := by decide +kernel
  have hclient : none.client? = some (none.clientOf ownConnection) := by
    rw [client?, hconfig, Option.map_some]
  have hother := hclients.trans hclient
  obtain ⟨-, -, -, hasks⟩ := hruns _ _ hclient hother Scene scripted [] { outcomes := [late] } "x"
  exact ⟨hagree, hsame.trans hconfig, _, hother, by decide +kernel, hasks⟩

end Settings

end VmScan
