import VmScan.Proofs.Detection.WholeRun

/-!
# Runs in worlds that correspond

A detection reads its world through its host, its analyser and its beautifier only. Where these do
the same in two worlds that correspond, the two runs do the same: they end with equal runs and equal
sessions, in worlds that correspond again.

* `Mirrors` — from worlds that correspond two steps give the same, and end in worlds that
  correspond; `Mirrored` says so of steps that carry a state of their own.
* `MirroredTransport`, `MirroredHost` — transports and hosts whose steps mirror each other.
* `widened` — a step in a world with something beside it, which it leaves as it is; `Beside` says
  what stands beside the world, `Within` leaves it open.

Results:
* `Mirrored.pure`, `Mirrored.bind`, `Mirrored.forM`: what is put together from such steps is one.
* `mirrored_call`: so is a call of a model, with its retries.
* `mirrored_readListingWith`, `mirrored_planBatches`, `mirrored_analyzeFrom`: so are the parts of a
  detection.
* `mirrored_detect`: so is the whole detection; `exists_runFrom_of_mirrored` says where such runs end.
-/

namespace VmScan.Detection

section Steps

variable {σ τ κ α β : Type} (R : σ → τ → Prop)

/-- From worlds that correspond the steps give the same, and end in worlds that correspond. -/
def Mirrors (here : StateM σ α) (there : StateM τ α) : Prop :=
  ∀ w w', R w w' → (there.run w').1 = (here.run w).1 ∧ R (here.run w).2 (there.run w').2

/-- From one state the steps mirror each other, and end in one state. -/
def Mirrored (here : StateT κ (StateM σ) α) (there : StateT κ (StateM τ) α) : Prop :=
  ∀ k, Mirrors R (here.run k) (there.run k)

variable {R}

theorem Mirrors.pure (a : α) : Mirrors R (pure a) (pure a) := fun _ _ h => ⟨rfl, h⟩

theorem Mirrors.bind {here : StateM σ α} {there : StateM τ α} {next : α → StateM σ β}
    {next' : α → StateM τ β} (hstep : Mirrors R here there)
    (hnext : ∀ a, Mirrors R (next a) (next' a)) :
    Mirrors R (here >>= next) (there >>= next') := by
  intro w w' h
  obtain ⟨hsame, hworld⟩ := hstep w w' h
  have hrest := hnext (here.run w).1 _ _ hworld
  show ((next' (there.run w').1).run (there.run w').2).1 = _ ∧
    R _ ((next' (there.run w').1).run (there.run w').2).2
  rw [hsame]
  exact hrest

theorem Mirrored.pure (a : α) : Mirrored R (pure a : StateT κ (StateM σ) α) (pure a) :=
  fun k => Mirrors.pure (a, k)

theorem Mirrored.bind {here : StateT κ (StateM σ) α} {there : StateT κ (StateM τ) α}
    {next : α → StateT κ (StateM σ) β} {next' : α → StateT κ (StateM τ) β}
    (hstep : Mirrored R here there) (hnext : ∀ a, Mirrored R (next a) (next' a)) :
    Mirrored R (here >>= next) (there >>= next') :=
  fun k => (hstep k).bind fun ended => hnext ended.1 ended.2

theorem Mirrored.lift {here : StateM σ α} {there : StateM τ α} (h : Mirrors R here there) :
    Mirrored R (liftM here : StateT κ (StateM σ) α) (liftM there) :=
  fun k => h.bind fun a => Mirrors.pure (a, k)

theorem Mirrored.get : Mirrored R (get : StateT κ (StateM σ) κ) get := fun k => Mirrors.pure (k, k)

theorem Mirrored.set (k : κ) : Mirrored R (set k : StateT κ (StateM σ) PUnit) (set k) :=
  fun _ => Mirrors.pure ((), k)

theorem Mirrored.modify (change : κ → κ) :
    Mirrored R (modify change : StateT κ (StateM σ) PUnit) (modify change) :=
  fun k => Mirrors.pure ((), change k)

theorem Mirrored.forM {here : α → StateT κ (StateM σ) PUnit} {there : α → StateT κ (StateM τ) PUnit}
    (h : ∀ a, Mirrored R (here a) (there a)) (items : List α) :
    Mirrored R (items.forM here) (items.forM there) := by
  induction items with
  | nil => exact Mirrored.pure ()
  | cons item items ih => exact (h item).bind fun _ => ih

theorem Mirrored.forM_option {here : α → StateT κ (StateM σ) PUnit}
    {there : α → StateT κ (StateM τ) PUnit} (h : ∀ a, Mirrored R (here a) (there a))
    (item : Option α) : Mirrored R (item.forM here) (item.forM there) := by
  cases item with
  | none => exact Mirrored.pure ()
  | some a => exact h a

end Steps

/-! ## Calling a model -/

section Transport

variable {σ τ : Type} (R : σ → τ → Prop)

/-- The transports do the same in worlds that correspond. -/
structure MirroredTransport (here : Transport (StateM σ)) (there : Transport (StateM τ)) :
    Prop where
  now : Mirrors R here.now there.now
  writeTime : there.writeTime = here.writeTime
  send : ∀ request, Mirrors R (here.send request) (there.send request)
  wait : ∀ seconds, Mirrors R (here.wait seconds) (there.wait seconds)

variable {R} {here : Transport (StateM σ)} {there : Transport (StateM τ)}

theorem mirrored_attempt (h : MirroredTransport R here there) (request : Request) :
    Mirrored R (Model.attempt here request) (Model.attempt there request) := by
  unfold Model.attempt
  refine (Mirrored.lift h.now).bind fun now => Mirrored.get.bind fun registry =>
    (Mirrored.set _).bind fun _ => ?_
  rw [h.writeTime]
  split
  · exact Mirrored.pure _
  · exact (Mirrored.lift (h.send request)).bind fun outcome => (Mirrored.lift h.now).bind
      fun ended => (Mirrored.modify _).bind fun _ => Mirrored.pure outcome

theorem mirrored_attempts (h : MirroredTransport R here there) (request : Request)
    (limited more : Nat) :
    Mirrored R (Model.attempts here request limited more)
      (Model.attempts there request limited more) := by
  induction more generalizing limited with
  | zero => exact mirrored_attempt h request
  | succ more ih =>
    unfold Model.attempts
    refine (mirrored_attempt h request).bind fun outcome => ?_
    cases outcome with
    | ok completion => exact Mirrored.pure _
    | error failure =>
      by_cases hlimit : failure.fault.isRateLimit = true
      · simp only [hlimit, if_true]
        exact (Mirrored.lift (h.wait _)).bind fun _ => ih (limited + 1)
      · simp only [hlimit]
        exact Mirrored.pure _

/-- A call of a model, with its retries. -/
theorem mirrored_call (h : MirroredTransport R here there) (request : Request) :
    Mirrored R (Model.call here request) (Model.call there request) := by
  unfold Model.call
  refine (mirrored_attempts h request 0 _).bind fun outcome => ?_
  cases outcome <;> exact Mirrored.pure _

theorem mirrored_client_analyze (h : MirroredTransport R here there) (client : Client)
    (code : String) :
    Mirrored R (client.analyze here code) (client.analyze there code) := by
  unfold Client.analyze
  refine (mirrored_call h _).bind fun outcome => ?_
  cases outcome <;> exact Mirrored.pure _

end Transport

/-! ## Detecting -/

section Ways

variable {σ : Type} {host : Host (StateM σ)} {settings : Settings} {file : String}
  {options : Options}

/-- Steps that do the same from everywhere are one. -/
theorem eq_of_runFrom {α : Type} {step step' : StateT Session (StateM σ) α}
    (h : ∀ s, runFrom step s = runFrom step' s) : step = step' := by
  funext session w
  have hs := h (session, w)
  exact Prod.ext (Prod.ext (congrArg (·.1) hs) (congrArg (·.2.1) hs)) (congrArg (·.2.2) hs)

/-- From worlds that correspond, runs give the same and leave the same session behind, in worlds that
correspond. -/
theorem exists_runFrom_of_mirrored {τ α : Type} {R : σ → τ → Prop}
    {here : StateT Session (StateM σ) α} {there : StateT Session (StateM τ) α}
    (h : Mirrored R here there) (session : Session) {w : σ} {w' : τ} (hw : R w w') :
    ∃ after, runFrom there (session, w')
        = ((runFrom here (session, w)).1, (runFrom here (session, w)).2.1, after) ∧
      R (runFrom here (session, w)).2.2 after := by
  obtain ⟨hsame, hworld⟩ := h session w w' hw
  refine ⟨_, ?_, hworld⟩
  unfold runFrom
  simp only [hsame]

/-- Where the settings name no client, a detection ends behind the warning about the provider. -/
theorem detect_of_no_client (hclient : settings.client? = none) :
    detect host settings file options
      = (settings.providerWarning?.forM (host.warn ·) : StateT Session (StateM σ) PUnit) >>=
        fun _ => failed host (Path.ofText file) { path := file } .notConfigured := by
  have hnone : chosenAnalyzer? host settings none = none := by
    rw [chosenAnalyzer?, hclient, Option.map_none]
  refine eq_of_runFrom fun s => ?_
  rw [runFrom_detect_unconfigured hnone, runFrom_bind]

/-- Where the settings name a client, a detection goes on with it. -/
theorem detect_of_client {client : Client} (hclient : settings.client? = some client) :
    detect host settings file options
      = runWith host (settingsBeautifier host settings) settings options none
        (fun code => onBreakers (client.analyze host.transport code)) (Path.ofText file)
        { path := file } := by
  have hsome : chosenAnalyzer? host settings none
      = some fun code => onBreakers (client.analyze host.transport code) := by
    rw [chosenAnalyzer?, hclient, Option.map_some]
  exact eq_of_runFrom fun s => runFrom_detect_configured hsome

end Ways

section Host

variable {σ τ : Type} (R : σ → τ → Prop)

/-- The hosts do the same in worlds that correspond. -/
structure MirroredHost (here : Host (StateM σ)) (there : Host (StateM τ)) : Prop where
  look : ∀ path, Mirrors R (here.disk.look path) (there.disk.look path)
  runtime : there.runtime = here.runtime
  transport : MirroredTransport R here.transport there.transport
  encodings : there.encodings = here.encodings
  warn : ∀ text, Mirrors R (here.warn text) (there.warn text)
  tell : ∀ progress, Mirrors R (here.tell progress) (there.tell progress)

variable {R} {here : Host (StateM σ)} {there : Host (StateM τ)} {settings : Settings}
  {options : Options} {path : Path}

theorem mirrored_onBreakers {α : Type} {step : StateT Registry (StateM σ) α}
    {step' : StateT Registry (StateM τ) α} (h : Mirrored R step step') :
    Mirrored R (onBreakers step) (onBreakers step') :=
  fun session => (h session.breakers).bind fun _ => Mirrors.pure _

theorem mirrored_warnings (h : MirroredHost R here there) (warnings : List String) :
    Mirrored R (warnings.forM (here.warn ·) : StateT Session (StateM σ) PUnit)
      (warnings.forM (there.warn ·)) :=
  Mirrored.forM (fun text => Mirrored.lift (h.warn text)) warnings

theorem mirrored_warning? (h : MirroredHost R here there) (warning : Option String) :
    Mirrored R (warning.forM (here.warn ·) : StateT Session (StateM σ) PUnit)
      (warning.forM (there.warn ·)) :=
  Mirrored.forM_option (fun text => Mirrored.lift (h.warn text)) warning

theorem mirrored_failed (h : MirroredHost R here there) (path : Path) (run : Run)
    (fault : RunFault) : Mirrored R (failed here path run fault) (failed there path run fault) :=
  (Mirrored.lift (h.warn _)).bind fun _ => Mirrored.pure _

theorem mirrored_settingsBeautifier (h : MirroredHost R here there) (settings : Settings)
    (path : Path) (entry : Entry) :
    Mirrors R (settingsBeautifier here settings path entry)
      (settingsBeautifier there settings path entry) := by
  unfold settingsBeautifier
  rw [h.runtime]
  exact (h.look _).bind fun _ => Mirrors.pure _

/-- A listing, where the beautifiers mirror each other. -/
theorem mirrored_readListingWith (h : MirroredHost R here there) {beautify : Beautifier (StateM σ)}
    {beautify' : Beautifier (StateM τ)}
    (hbeautify : ∀ path entry, Mirrors R (beautify path entry) (beautify' path entry))
    (limit : Int) (path : Path) :
    Mirrored R (readListingWith here beautify limit path)
      (readListingWith there beautify' limit path) := by
  unfold readListingWith
  refine (Mirrored.lift (h.look path)).bind fun entry => ?_
  by_cases hfile : entry.isFile = true
  · simp only [hfile]
    exact (Mirrored.lift (hbeautify path entry)).bind fun reading =>
      (mirrored_warnings h _).bind fun _ => Mirrored.pure _
  · simp only [hfile]
    exact Mirrored.pure _

theorem mirrored_settingsCounter (h : MirroredHost R here there) (settings : Settings) :
    Mirrored R (settingsCounter here settings) (settingsCounter there settings) := by
  unfold settingsCounter
  cases settings.counting with
  | estimate => exact Mirrored.pure _
  | encoding =>
    simp only [h.encodings]
    exact Mirrored.get.bind fun session => (Mirrored.modify _).bind fun _ =>
      (mirrored_warning? h _).bind fun _ => Mirrored.pure _

/-- The batches of the chosen lines. -/
theorem mirrored_planBatches (h : MirroredHost R here there) (settings : Settings)
    (options : Options) (counter : Option TokenCounter) (lines : List Line) :
    Mirrored R (planBatches here settings options counter lines)
      (planBatches there settings options counter lines) := by
  unfold planBatches
  cases lines.mapM (·.render) with
  | error fault => exact Mirrored.pure _
  | ok texts =>
    by_cases hbudget : options.maxTokens.getD settings.maxTokens ≤ 0
    · simp only [hbudget, if_true]
      exact Mirrored.pure _
    · simp only [hbudget, if_false]
      cases counter with
      | some count => exact Mirrored.pure _
      | none => exact (mirrored_settingsCounter h settings).bind fun count => Mirrored.pure _

theorem mirrored_announce (h : MirroredHost R here there) (total : Nat) (outcome : BatchOutcome) :
    Mirrored R (announce here total outcome) (announce there total outcome) :=
  (mirrored_warning? h _).bind fun _ => Mirrored.lift (h.tell _)

section Analysis

variable {analyze : Analyzer (StateM σ)} {analyze' : Analyzer (StateM τ)}
  (hanalyze : ∀ code, Mirrored R (analyze code) (analyze' code))
include hanalyze

/-- Sending batches, where the analysers mirror each other. -/
theorem mirrored_analyzeFrom (runtime : Json.Runtime)
    {tell : BatchOutcome → StateT Session (StateM σ) Unit}
    {tell' : BatchOutcome → StateT Session (StateM τ) Unit}
    (htell : ∀ outcome, Mirrored R (tell outcome) (tell' outcome)) (index : Nat)
    (batches : List Batch) :
    Mirrored R (analyzeFrom runtime analyze tell index batches)
      (analyzeFrom runtime analyze' tell' index batches) := by
  induction batches generalizing index with
  | nil => exact Mirrored.pure _
  | cons batch rest ih =>
    unfold analyzeFrom
    exact (hanalyze batch.content).bind fun reply => (htell _).bind fun _ =>
      (ih (index + 1)).bind fun outcomes => Mirrored.pure _

theorem mirrored_runBatches (h : MirroredHost R here there) (path : Path) (run : Run)
    (batches : List Batch) :
    Mirrored R (runBatches here analyze path run batches)
      (runBatches there analyze' path run batches) := by
  unfold runBatches
  rw [h.runtime]
  refine (mirrored_analyzeFrom hanalyze here.runtime (mirrored_announce h _) 0 batches).bind
    fun outcomes => ?_
  simp only
  split
  · exact Mirrored.pure _
  · exact mirrored_failed h _ _ _

theorem mirrored_runLines (h : MirroredHost R here there) (settings : Settings)
    (options : Options) (counter : Option TokenCounter) (path : Path) (run : Run)
    (lines : List Line) :
    Mirrored R (runLines here settings options counter analyze path run lines)
      (runLines there settings options counter analyze' path run lines) := by
  unfold runLines
  refine (mirrored_planBatches h settings options counter _).bind fun planned => ?_
  cases planned with
  | error fault => exact mirrored_failed h _ _ _
  | ok batches => exact mirrored_runBatches hanalyze h _ _ _

theorem mirrored_runWith (h : MirroredHost R here there) {beautify : Beautifier (StateM σ)}
    {beautify' : Beautifier (StateM τ)}
    (hbeautify : ∀ path entry, Mirrors R (beautify path entry) (beautify' path entry))
    (settings : Settings) (options : Options) (counter : Option TokenCounter) (path : Path)
    (run : Run) :
    Mirrored R (runWith here beautify settings options counter analyze path run)
      (runWith there beautify' settings options counter analyze' path run) := by
  unfold runWith
  refine (mirrored_readListingWith h hbeautify _ path).bind fun listing => ?_
  cases listing with
  | error fault => exact mirrored_failed h _ _ _
  | ok lines => exact mirrored_runLines hanalyze h _ _ _ _ _ _

end Analysis

/-- **Detections in worlds that correspond do the same**, where the settings name the analyser and
the beautifier. -/
theorem mirrored_detect (h : MirroredHost R here there) (settings : Settings) (file : String)
    (options : Options) :
    Mirrored R (detect here settings file options) (detect there settings file options) := by
  cases hclient : settings.client? with
  | none =>
    rw [detect_of_no_client hclient, detect_of_no_client hclient]
    exact (mirrored_warning? h _).bind fun _ => mirrored_failed h _ _ _
  | some client =>
    have hanalyze (code : String) : Mirrored R (onBreakers (client.analyze here.transport code))
        (onBreakers (client.analyze there.transport code)) :=
      mirrored_onBreakers (mirrored_client_analyze h.transport client code)
    rw [detect_of_client hclient, detect_of_client hclient]
    exact mirrored_runWith hanalyze h (mirrored_settingsBeautifier h settings) _ _ _ _ _

end Host

/-! ## A world with something beside it -/

section Widened

variable {σ : Type} (ρ : Type)

/-- The step in a world with something beside it, which it leaves as it is. -/
def widened {α : Type} (step : StateM σ α) : StateM (σ × ρ) α := fun (w, kept) =>
  let ended := step.run w
  (ended.1, ended.2, kept)

/-- The host in a world with something beside it. -/
def widenedHost (host : Host (StateM σ)) : Host (StateM (σ × ρ)) where
  disk := {
    look := fun path => widened ρ (host.disk.look path)
    write := fun path bytes => widened ρ (host.disk.write path bytes) }
  runtime := host.runtime
  transport := {
    now := widened ρ host.transport.now
    writeTime := host.transport.writeTime
    send := fun request => widened ρ (host.transport.send request)
    wait := fun seconds => widened ρ (host.transport.wait seconds) }
  encodings := host.encodings
  warn := fun text => widened ρ (host.warn text)
  tell := fun progress => widened ρ (host.tell progress)

/-- The beautifier in a world with something beside it. -/
def widenedBeautifier (beautify : Beautifier (StateM σ)) : Beautifier (StateM (σ × ρ)) :=
  fun path entry => widened ρ (beautify path entry)

variable {ρ}

/-- The wider world is the world with `kept` beside it. -/
def Beside (kept : ρ) (w : σ) (w' : σ × ρ) : Prop :=
  w' = (w, kept)

/-- The wider world is the world with something beside it. -/
def Within (w : σ) (w' : σ × ρ) : Prop :=
  w'.1 = w

theorem mirrors_beside (kept : ρ) {α : Type} (step : StateM σ α) :
    Mirrors (Beside kept) step (widened ρ step) := by
  rintro w _ rfl
  exact ⟨rfl, rfl⟩

theorem mirrors_within {α : Type} (step : StateM σ α) :
    Mirrors (Within : σ → σ × ρ → Prop) step (widened ρ step) := by
  rintro _ ⟨w, kept⟩ rfl
  exact ⟨rfl, rfl⟩

/-- Where all steps do the same in a wider world, a host does. -/
theorem mirrored_widenedHost {R : σ → σ × ρ → Prop}
    (h : ∀ {α : Type} (step : StateM σ α), Mirrors R step (widened ρ step))
    (host : Host (StateM σ)) : MirroredHost R host (widenedHost ρ host) where
  look _ := h _
  runtime := rfl
  transport := ⟨h _, rfl, fun _ => h _, fun _ => h _⟩
  encodings := rfl
  warn _ := h _
  tell _ := h _

/-- A beautifier that the caller brings does the same in a wider world, and so does the one that
the settings name. -/
theorem mirrors_chosenBeautifier {R : σ → σ × ρ → Prop}
    (h : ∀ {α : Type} (step : StateM σ α), Mirrors R step (widened ρ step))
    (host : Host (StateM σ)) (settings : Settings) (beautifier : Option (Beautifier (StateM σ)))
    (path : Path) (entry : Entry) :
    Mirrors R (beautifier.getD (settingsBeautifier host settings) path entry)
      ((beautifier.map (widenedBeautifier ρ)).getD
        (settingsBeautifier (widenedHost ρ host) settings) path entry) := by
  cases beautifier with
  | none => exact mirrored_settingsBeautifier (mirrored_widenedHost h host) settings path entry
  | some beautify => exact h (beautify path entry)

end Widened

end VmScan.Detection
