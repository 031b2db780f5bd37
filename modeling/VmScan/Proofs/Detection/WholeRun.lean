import VmScan.Proofs.Detection.Outcomes
import VmScan.Proofs.Detection.Plan

/-!
# How a whole run ends

A detection (`find_jsvmp_dispatcher`) over an arbitrary world: the disk, the transport, the listener
and the analyser are functions of a state that they may change. Whatever they do, a run comes back,
and its parts agree on how it ended.

* `Exchange` — batches are sent one after another, one call for each, and told about.
* `Pending`, `Agrees` — a run that has not ended, and a run whose parts agree on how it ended.
* `chosenAnalyzer?` — the analyser of a detection, if there is one.
* `CallsNoModel` — a run that would be the same with every other transport and analyser.

Results:
* `exists_exchange`: sending batches is an exchange, and the outcomes are those of its replies.
* `agrees_detect`: the parts of a run agree on how it ended.
* `refused_of_unconfigured`, `refused_of_unread`, `refused_of_unplanned`: without an analyser, a
  listing or batches a run fails, and no model is called.
* `runFrom_runBatches_exchange`: how a run over batches ends, by the replies to them.
* `detect_outcome`: the outcome of a whole run.
-/

namespace VmScan.Detection

variable {σ : Type}

/-! ## Exchanges -/

/-- The batches behind the first `index` are sent, one call for each with its content, and told
about before the next is sent; the replies are in the order of the batches. -/
inductive Exchange (runtime : Json.Runtime) (analyze : Analyzer (StateM σ))
    (tell : BatchOutcome → StateT Session (StateM σ) Unit) :
    Nat → List Batch → Session × σ → List (Except Failure String) → Session × σ → Prop
  | done (index : Nat) (s : Session × σ) : Exchange runtime analyze tell index [] s [] s
  | next {index : Nat} {batch : Batch} {rest : List Batch} {s answered told after : Session × σ}
      {reply : Except Failure String} {replies : List (Except Failure String)}
      (call : runFrom (analyze batch.content) s = (reply, answered))
      (tells : runFrom (tell (outcomeOf runtime ((batch, reply), index))) answered = ((), told))
      (others : Exchange runtime analyze tell (index + 1) rest told replies after) :
      Exchange runtime analyze tell index (batch :: rest) s (reply :: replies) after

section Exchange

variable {runtime : Json.Runtime} {analyze : Analyzer (StateM σ)}
  {tell : BatchOutcome → StateT Session (StateM σ) Unit}

theorem Exchange.length_replies {index : Nat} {batches : List Batch} {s after : Session × σ}
    {replies : List (Except Failure String)}
    (h : Exchange runtime analyze tell index batches s replies after) :
    replies.length = batches.length := by
  induction h with
  | done index s => rfl
  | next call tells others ih => rw [List.length_cons, List.length_cons, ih]

variable (runtime analyze tell)

/-- **Sending batches is an exchange**, and what becomes of them is what its replies say. -/
theorem exists_exchange (index : Nat) (batches : List Batch) (s : Session × σ) :
    ∃ replies after, Exchange runtime analyze tell index batches s replies after ∧
      runFrom (analyzeFrom runtime analyze tell index batches) s
        = (outcomesOf runtime index batches replies, after) := by
  induction batches generalizing index s with
  | nil => exact ⟨[], s, .done index s, rfl⟩
  | cons batch rest ih =>
    let answered := runFrom (analyze batch.content) s
    let told := runFrom (tell (outcomeOf runtime ((batch, answered.1), index))) answered.2
    -- the other batches are sent in the world that this call and its telling leave behind
    obtain ⟨replies, after, hrest, hrun⟩ := ih (index + 1) told.2
    refine ⟨answered.1 :: replies, after, .next rfl rfl hrest, ?_⟩
    have hstep : runFrom (analyzeFrom runtime analyze tell index (batch :: rest)) s
        = ((runFrom (analyzeFrom runtime analyze tell (index + 1) rest) told.2).map
            (outcomeOf runtime ((batch, answered.1), index) :: ·) id) := rfl
    rw [hstep, hrun]
    rfl

end Exchange

/-! ## Runs that agree with themselves -/

/-- The run has not ended: it has nothing to show yet. -/
structure Pending (run : Run) : Prop where
  success : run.success = false
  result : run.result = none
  report : run.report = none
  error : run.error = none

/-- The parts of the run agree on how it ended. -/
structure Agrees (run : Run) : Prop where
  result : run.success = true ↔ run.result.isSome = true
  report : run.success = true ↔ run.report.isSome = true
  error : run.success = true ↔ run.error = none

theorem Pending.agrees_failed {run : Run} (h : Pending run) (host : Host (StateM σ)) (path : Path)
    (fault : RunFault) (s : Session × σ) : Agrees (runFrom (failed host path run fault) s).1 := by
  have hrun : (runFrom (failed host path run fault) s).1
      = { run with error := some fault.message } := rfl
  rw [hrun]
  constructor
  · simp [h.success, h.result]
  · simp [h.success, h.report]
  · simp [h.success]

/-! ## Batches that are sent -/

section Sent

variable {host : Host (StateM σ)} {analyze : Analyzer (StateM σ)} {path : Path} {run : Run}
  {batches : List Batch} {s after : Session × σ} {outcomes : List BatchOutcome}

/-- Where every batch failed, the run ends with their messages. -/
theorem runFrom_runBatches_failed
    (hrun : runFrom (analyzeBatches host.runtime analyze (announce host batches.length) batches) s
      = (outcomes, after))
    (hsome : outcomes ≠ []) (hnone : resultsOf outcomes = []) :
    (runFrom (runBatches host analyze path run batches) s).1 =
      { run with
        batchCount := batches.length
        partialErrors := errorsOf outcomes
        error := some (RunFault.allFailed (errorsOf outcomes)).message } := by
  unfold runBatches
  rw [runFrom_bind, hrun]
  have hconcluded : ∀ run : Run,
      concluded run outcomes = .error (.allFailed (errorsOf outcomes)) := by
    intro run
    rw [concluded, if_pos]
    rw [hnone, Bool.and_eq_true, Bool.not_eq_true', List.isEmpty_eq_false_iff]
    exact ⟨hsome, rfl⟩
  simp only [hconcluded]
  rfl

/-- Where a batch has a result, the run ends with the results put together. -/
theorem runFrom_runBatches_merged
    (hrun : runFrom (analyzeBatches host.runtime analyze (announce host batches.length) batches) s
      = (outcomes, after))
    (hsome : outcomes = [] ∨ resultsOf outcomes ≠ []) :
    (runFrom (runBatches host analyze path run batches) s).1 =
      { run with
        batchCount := batches.length
        partialErrors := errorsOf outcomes
        success := true
        result := some (merge (resultsOf outcomes))
        report := some ((merge (resultsOf outcomes)).report run.path run.totalLines
          batches.length) } := by
  unfold runBatches
  rw [runFrom_bind, hrun]
  have hempty : (!outcomes.isEmpty && (resultsOf outcomes).isEmpty) = false := by
    rw [Bool.and_eq_false_iff, Bool.not_eq_false', List.isEmpty_iff, List.isEmpty_eq_false_iff]
    exact hsome
  simp only [concluded, hempty]
  rfl

/-- However the batches fare, the run ends so that its parts agree. -/
theorem Pending.agrees_runBatches (h : Pending run) (host : Host (StateM σ))
    (analyze : Analyzer (StateM σ)) (path : Path) (batches : List Batch) (s : Session × σ) :
    Agrees (runFrom (runBatches host analyze path run batches) s).1 := by
  generalize hrun : runFrom (analyzeBatches host.runtime analyze (announce host batches.length)
    batches) s = ended
  obtain ⟨outcomes, after⟩ := ended
  by_cases hsome : outcomes = [] ∨ resultsOf outcomes ≠ []
  · rw [runFrom_runBatches_merged hrun hsome]
    constructor <;> simp [h.error]
  · rw [not_or, not_not] at hsome
    rw [runFrom_runBatches_failed hrun hsome.1 hsome.2]
    constructor <;> simp [h.success, h.result, h.report]

end Sent

/-! ## The ways of a detection -/

/-- The analyser of a detection: the one that the caller brings, or the one that the settings
name. -/
def chosenAnalyzer? {m : Type → Type} [Monad m] (host : Host m) (settings : Settings) :
    Option (Analyzer m) → Option (Analyzer m)
  | some analyze => some analyze
  | none => settings.client?.map fun client code => onBreakers (client.analyze host.transport code)

/-- Settings that name a client name a provider that is known. -/
theorem providerWarning?_of_client? {settings : Settings} {client : Client}
    (h : settings.client? = some client) : settings.providerWarning? = none := by
  unfold Settings.client? Settings.modelConfig? at h
  unfold Settings.providerWarning?
  cases hprovider : Provider.find? settings.provider with
  | none => rw [hprovider] at h; cases h
  | some provider => rfl

section Ways

variable {host : Host (StateM σ)} {settings : Settings} {file : String} {options : Options}
  {analyzer : Option (Analyzer (StateM σ))} {counter : Option TokenCounter}
  {analyze : Analyzer (StateM σ)} {s s₁ s₂ : Session × σ} {lines : List Line}

/-- Without an analyser the run ends at once, behind the warning about the provider. -/
theorem runFrom_detect_unconfigured (h : chosenAnalyzer? host settings analyzer = none) :
    runFrom (detect host settings file options analyzer counter) s
      = runFrom (failed host (Path.ofText file) { path := file } .notConfigured)
        (runFrom (settings.providerWarning?.forM (host.warn ·) :
          StateT Session (StateM σ) PUnit) s).2 := by
  cases analyzer with
  | some analyze => cases h
  | none =>
    rw [chosenAnalyzer?, Option.map_eq_none_iff] at h
    have hchosen : runFrom (settingsAnalyzer host settings) s
        = (.error .notConfigured, (runFrom (settings.providerWarning?.forM (host.warn ·) :
          StateT Session (StateM σ) PUnit) s).2) := by
      unfold settingsAnalyzer
      rw [h, runFrom_bind, runFrom_pure]
    unfold detect detectWith
    simp only
    rw [runFrom_bind, hchosen]

/-- With an analyser the run goes on with it. -/
theorem runFrom_detectWith_configured {beautifier : Option (Beautifier (StateM σ))}
    (h : chosenAnalyzer? host settings analyzer = some analyze) :
    runFrom (detectWith beautifier host settings file options analyzer counter) s
      = runFrom (runWith host (beautifier.getD (settingsBeautifier host settings)) settings
          options counter analyze (Path.ofText file) { path := file }) s := by
  cases analyzer with
  | some given =>
    obtain rfl := Option.some.inj h
    rfl
  | none =>
    rw [chosenAnalyzer?, Option.map_eq_some_iff] at h
    obtain ⟨client, hclient, rfl⟩ := h
    have hchosen : runFrom (settingsAnalyzer host settings) s
        = (.ok fun code => onBreakers (client.analyze host.transport code), s) := by
      unfold settingsAnalyzer
      rw [providerWarning?_of_client? hclient, hclient, runFrom_bind, runFrom_pure]
      rfl
    unfold detectWith
    simp only
    rw [runFrom_bind, hchosen]

theorem runFrom_detect_configured (h : chosenAnalyzer? host settings analyzer = some analyze) :
    runFrom (detect host settings file options analyzer counter) s
      = runFrom (runWith host (settingsBeautifier host settings) settings options counter
          analyze (Path.ofText file) { path := file }) s :=
  runFrom_detectWith_configured h

variable {beautify : Beautifier (StateM σ)} {path : Path} {run : Run}

/-- Without a listing the run ends. -/
theorem runFrom_runWith_unread {fault : RunFault}
    (hread : runFrom (readListingWith host beautify (options.charLimit.getD settings.charLimit)
      path) s = (.error fault, s₁)) :
    runFrom (runWith host beautify settings options counter analyze path run) s
      = runFrom (failed host path run fault) s₁ := by
  unfold runWith
  simp only
  rw [runFrom_bind, hread]

/-- With a listing the run goes on over its lines. -/
theorem runFrom_runWith_read
    (hread : runFrom (readListingWith host beautify (options.charLimit.getD settings.charLimit)
      path) s = (.ok lines, s₁)) :
    runFrom (runWith host beautify settings options counter analyze path run) s
      = runFrom (runLines host settings options counter analyze path run lines) s₁ := by
  unfold runWith
  simp only
  rw [runFrom_bind, hread]

/-- Without batches the run ends. -/
theorem runFrom_runWith_unplanned {fault : Batch.Fault}
    (hread : runFrom (readListingWith host beautify (options.charLimit.getD settings.charLimit)
      path) s = (.ok lines, s₁))
    (hplan : runFrom (planBatches host settings options counter (chosenLines options lines)) s₁
      = (.error fault, s₂)) :
    runFrom (runWith host beautify settings options counter analyze path run) s
      = runFrom (failed host path { run with totalLines := lines.length } (.batches fault)) s₂ := by
  rw [runFrom_runWith_read hread]
  unfold runLines
  simp only
  rw [runFrom_bind, hplan]

/-- With batches the run goes on to send them. -/
theorem runFrom_runWith_planned {batches : List Batch}
    (hread : runFrom (readListingWith host beautify (options.charLimit.getD settings.charLimit)
      path) s = (.ok lines, s₁))
    (hplan : runFrom (planBatches host settings options counter (chosenLines options lines)) s₁
      = (.ok batches, s₂)) :
    runFrom (runWith host beautify settings options counter analyze path run) s
      = runFrom (runBatches host analyze path { run with totalLines := lines.length } batches)
        s₂ := by
  rw [runFrom_runWith_read hread]
  unfold runLines
  simp only
  rw [runFrom_bind, hplan]

/-- **The parts of a run agree on how it ended.** -/
theorem agrees_detect (host : Host (StateM σ)) (settings : Settings) (file : String)
    (options : Options) (analyzer : Option (Analyzer (StateM σ))) (counter : Option TokenCounter)
    (s : Session × σ) :
    Agrees (runFrom (detect host settings file options analyzer counter) s).1 := by
  have hstart : Pending { path := file } := ⟨rfl, rfl, rfl, rfl⟩
  have hlisted : ∀ total, Pending { path := file, totalLines := total } :=
    fun _ => ⟨rfl, rfl, rfl, rfl⟩
  cases hchosen : chosenAnalyzer? host settings analyzer with
  | none =>
    rw [runFrom_detect_unconfigured hchosen]
    exact hstart.agrees_failed ..
  | some analyze =>
    rw [runFrom_detect_configured hchosen]
    rcases hread : runFrom (readListing host settings options (Path.ofText file)) s with
      ⟨fault | lines, s₁⟩
    · rw [runFrom_runWith_unread hread]
      exact hstart.agrees_failed ..
    rcases hplan : runFrom (planBatches host settings options counter (chosenLines options lines))
      s₁ with ⟨fault | batches, s₂⟩
    · rw [runFrom_runWith_unplanned hread hplan]
      exact (hlisted _).agrees_failed ..
    · rw [runFrom_runWith_planned hread hplan]
      exact (hlisted _).agrees_runBatches ..

end Ways

/-! ## The outcome -/

/-- No model is called: whatever another transport or analyser would answer, the run and what it
leaves behind are the same. -/
def CallsNoModel (host : Host (StateM σ)) (settings : Settings) (file : String) (options : Options)
    (analyzer : Option (Analyzer (StateM σ))) (counter : Option TokenCounter) (s : Session × σ) :
    Prop :=
  ∀ (transport : Transport (StateM σ)) (other : Analyzer (StateM σ)),
    runFrom (detect { host with transport } settings file options (analyzer.map fun _ => other)
      counter) s = runFrom (detect host settings file options analyzer counter) s

section Refused

variable {host : Host (StateM σ)} {settings : Settings} {file : String} {options : Options}
  {analyzer : Option (Analyzer (StateM σ))} {counter : Option TokenCounter} {s : Session × σ}

/-- Without an analyser the run fails, and no model is called. -/
theorem refused_of_unconfigured (h : chosenAnalyzer? host settings analyzer = none) :
    (runFrom (detect host settings file options analyzer counter) s).1.success = false ∧
      CallsNoModel host settings file options analyzer counter s := by
  cases analyzer with
  | some analyze => cases h
  | none =>
    refine ⟨by rw [runFrom_detect_unconfigured h]; rfl, fun transport other => ?_⟩
    have hother : chosenAnalyzer? { host with transport } settings none = none := by
      rw [chosenAnalyzer?, Option.map_eq_none_iff] at h
      rw [chosenAnalyzer?, h, Option.map_none]
    rw [Option.map_none, runFrom_detect_unconfigured hother, runFrom_detect_unconfigured h]
    rfl

/-- A run that ends alike and without success with every analyser calls no model. -/
theorem refused_of_runWith {ended : Run × (Session × σ)} (hfail : ended.1.success = false)
    (h : ∀ transport analyze, runFrom (runWith { host with transport }
      (settingsBeautifier host settings) settings options counter analyze (Path.ofText file)
      { path := file }) s = ended) :
    (runFrom (detect host settings file options analyzer counter) s).1.success = false ∧
      CallsNoModel host settings file options analyzer counter s := by
  rcases hchosen : chosenAnalyzer? host settings analyzer with _ | analyze
  · exact refused_of_unconfigured hchosen
  have hhere : runFrom (detect host settings file options analyzer counter) s = ended :=
    (runFrom_detect_configured hchosen).trans (h host.transport analyze)
  refine ⟨by rw [hhere, hfail], fun transport other => ?_⟩
  obtain ⟨analyze', hother⟩ : ∃ analyze', chosenAnalyzer? { host with transport } settings
      (analyzer.map fun _ => other) = some analyze' := by
    cases analyzer with
    | some given => exact ⟨other, rfl⟩
    | none =>
      rw [chosenAnalyzer?, Option.map_eq_some_iff] at hchosen
      obtain ⟨client, hclient, -⟩ := hchosen
      rw [Option.map_none, chosenAnalyzer?, hclient, Option.map_some]
      exact ⟨_, rfl⟩
  rw [hhere, runFrom_detect_configured hother]
  exact h transport analyze'

/-- Without a listing the run fails, and no model is called. -/
theorem refused_of_unread {fault : RunFault} {after : Session × σ}
    (hread : runFrom (readListing host settings options (Path.ofText file)) s
      = (.error fault, after)) :
    (runFrom (detect host settings file options analyzer counter) s).1.success = false ∧
      CallsNoModel host settings file options analyzer counter s := by
  have hended : ∀ transport analyze, runFrom (runWith { host with transport }
      (settingsBeautifier host settings) settings options counter analyze (Path.ofText file)
      { path := file }) s
        = runFrom (failed host (Path.ofText file) { path := file } fault) after :=
    fun transport analyze => runFrom_runWith_unread hread
  exact refused_of_runWith rfl hended

/-- Without batches the run fails, and no model is called. -/
theorem refused_of_unplanned {lines : List Line} {fault : Batch.Fault} {listed after : Session × σ}
    (hread : runFrom (readListing host settings options (Path.ofText file)) s = (.ok lines, listed))
    (hplan : runFrom (planBatches host settings options counter (chosenLines options lines)) listed
      = (.error fault, after)) :
    (runFrom (detect host settings file options analyzer counter) s).1.success = false ∧
      CallsNoModel host settings file options analyzer counter s := by
  have hended : ∀ transport analyze, runFrom (runWith { host with transport }
      (settingsBeautifier host settings) settings options counter analyze (Path.ofText file)
      { path := file }) s
        = runFrom (failed host (Path.ofText file) { path := file, totalLines := lines.length }
          (.batches fault)) after :=
    fun transport analyze => runFrom_runWith_unplanned hread hplan
  exact refused_of_runWith rfl hended

end Refused

/-- **The run over batches**, by the replies to them. -/
theorem runFrom_runBatches_exchange (host : Host (StateM σ)) (analyze : Analyzer (StateM σ))
    (path : Path) {run : Run} (hpending : Pending run) {batches : List Batch} (hne : batches ≠ [])
    (s : Session × σ) :
    let ended := (runFrom (runBatches host analyze path run batches) s).1
    ended.totalLines = run.totalLines ∧ ended.batchCount = batches.length ∧
      ∃ replies after,
        Exchange host.runtime analyze (announce host batches.length) 0 batches s replies after ∧
        ended.partialErrors = errorTexts host.runtime batches replies ∧
        (ended.success = true ↔ ∃ reply ∈ replies, (parsed? host.runtime reply).isSome = true) ∧
        (ended.success = true →
          ended.result = some (merge (replies.filterMap (parsed? host.runtime))) ∧
          ended.partialErrors.length < ended.batchCount) ∧
        ((∀ reply ∈ replies, parsed? host.runtime reply = none) →
          ended.error = some ("All batches failed: " ++ "; ".intercalate ended.partialErrors) ∧
          ended.partialErrors.length = ended.batchCount) := by
  intro ended
  obtain ⟨replies, after, hexchange, hrun⟩ :=
    exists_exchange host.runtime analyze (announce host batches.length) 0 batches s
  have hlength : replies.length = batches.length := hexchange.length_replies
  have hresults : resultsOf (outcomesOf host.runtime 0 batches replies)
      = replies.filterMap (parsed? host.runtime) :=
    resultsOf_outcomesOf 0 hlength
  have herrors : errorsOf (outcomesOf host.runtime 0 batches replies)
      = errorTexts host.runtime batches replies :=
    errorsOf_outcomesOf host.runtime batches replies
  have hcount : (replies.filterMap (parsed? host.runtime)).length
      + (errorTexts host.runtime batches replies).length
      = batches.length := by
    rw [← hresults, ← herrors, length_resultsOf_add_errorsOf, length_outcomesOf 0 hlength]
  have hoccupied : outcomesOf host.runtime 0 batches replies ≠ [] := by
    rw [← List.length_pos_iff, length_outcomesOf 0 hlength]
    exact List.length_pos_iff.mpr hne
  have hsome : (∃ reply ∈ replies, (parsed? host.runtime reply).isSome = true)
      ↔ replies.filterMap (parsed? host.runtime) ≠ [] := by
    rw [ne_eq, List.filterMap_eq_nil_iff]
    push Not
    simp only [Option.isSome_iff_ne_none]
  have hnil : (∀ reply ∈ replies, parsed? host.runtime reply = none)
      ↔ replies.filterMap (parsed? host.runtime) = [] :=
    List.filterMap_eq_nil_iff.symm
  -- no reply gives a result, or the results are put together
  by_cases hnone : replies.filterMap (parsed? host.runtime) = []
  · have hended : ended = _ := runFrom_runBatches_failed hrun hoccupied (hresults.trans hnone)
    rw [hnone, List.length_nil, Nat.zero_add] at hcount
    rw [herrors] at hended
    have hfail : ended.success ≠ true := by simp [hended, hpending.success]
    refine ⟨by rw [hended], by rw [hended], replies, after, hexchange, by rw [hended], ?_,
      fun h => absurd h hfail, fun _ => ⟨by rw [hended]; rfl, by rw [hended, hcount]⟩⟩
    rw [hsome]
    exact iff_of_false hfail (not_not_intro hnone)
  · have hended : ended = _ :=
      runFrom_runBatches_merged hrun (Or.inr fun h => hnone (hresults.symm.trans h))
    rw [herrors, hresults] at hended
    have hpos := List.length_pos_iff.mpr hnone
    refine ⟨by rw [hended], by rw [hended], replies, after, hexchange, by rw [hended], ?_,
      fun _ => ⟨by rw [hended], ?_⟩, fun h => absurd (hnil.mp h) hnone⟩
    · rw [hsome]
      exact iff_of_true (by rw [hended]) hnone
    · rw [hended]
      show ((errorTexts host.runtime batches replies).length : Int) < batches.length
      omega

/-- **The outcome of a whole run.** The parts of a run agree on how it ended. Without an analyser,
a file, positive limits, a listing or batches, it fails and no model is called. Otherwise there is
a batch; the run succeeds exactly if some reply gives a result, and then has the results put
together, in the order of the batches; the messages are those about the other batches; and the
lines are those of the whole source. If every batch failed, the error joins their messages. -/
theorem detect_outcome (host : Host (StateM σ)) (settings : Settings) (file : String)
    (options : Options) (analyzer : Option (Analyzer (StateM σ))) (counter : Option TokenCounter)
    (s : Session × σ) :
    let path := Path.ofText file
    let run := (runFrom (detect host settings file options analyzer counter) s).1
    ((run.success = true ↔ run.result.isSome = true) ∧
      (run.success = true ↔ run.report.isSome = true) ∧
      (run.success = true ↔ run.error = none)) ∧
    ((chosenAnalyzer? host settings analyzer = none ∨
        (entries host path s).1.isFile = false ∨
        options.charLimit.getD settings.charLimit ≤ 0 ∨
        options.maxTokens.getD settings.maxTokens ≤ 0 ∨
        (∃ fault after, runFrom (readListing host settings options path) s
          = (.error fault, after)) ∨
        (∃ lines listed fault after,
          runFrom (readListing host settings options path) s = (.ok lines, listed) ∧
          runFrom (planBatches host settings options counter (chosenLines options lines)) listed
            = (.error fault, after))) →
      run.success = false ∧ CallsNoModel host settings file options analyzer counter s) ∧
    ∀ analyze lines listed batches planned,
      chosenAnalyzer? host settings analyzer = some analyze →
      runFrom (readListing host settings options path) s = (.ok lines, listed) →
      runFrom (planBatches host settings options counter (chosenLines options lines)) listed
        = (.ok batches, planned) →
      (∃ source warnings,
        Source.read host.runtime (preparation settings) path (entries host path s).1
          (entries host path s).2 = .ok (source, warnings) ∧
        run.totalLines = (Text.lines source.code).length) ∧
      run.batchCount = batches.length ∧ 1 ≤ run.batchCount ∧
      ∃ replies after,
        Exchange host.runtime analyze (announce host batches.length) 0 batches planned replies
          after ∧
        run.partialErrors = errorTexts host.runtime batches replies ∧
        (run.success = true ↔ ∃ reply ∈ replies, (parsed? host.runtime reply).isSome = true) ∧
        (run.success = true →
          run.result = some (merge (replies.filterMap (parsed? host.runtime))) ∧
          run.partialErrors.length < run.batchCount) ∧
        ((∀ reply ∈ replies, parsed? host.runtime reply = none) →
          run.error = some ("All batches failed: " ++ "; ".intercalate run.partialErrors) ∧
          run.partialErrors.length = run.batchCount) := by
  intro path run
  have hagrees : Agrees run := agrees_detect host settings file options analyzer counter s
  refine ⟨⟨hagrees.result, hagrees.report, hagrees.error⟩, ?_, ?_⟩
  · rintro (hchosen | hfile | hlimit | hbudget | ⟨fault, after, hread⟩ |
      ⟨lines, listed, fault, after, hread, hplan⟩)
    · exact refused_of_unconfigured hchosen
    · obtain ⟨fault, after, hread⟩ := readListing_refused (Or.inl hfile)
      exact refused_of_unread hread
    · obtain ⟨fault, after, hread⟩ := readListing_refused (Or.inr hlimit)
      exact refused_of_unread hread
    · rcases hread : runFrom (readListing host settings options path) s with
        ⟨fault | lines, listed⟩
      · exact refused_of_unread hread
      · obtain ⟨fault, hplan⟩ := planBatches_refused hbudget
        exact refused_of_unplanned hread hplan
    · exact refused_of_unread hread
    · exact refused_of_unplanned hread hplan
  · intro analyze lines listed batches planned hchosen hread hplan
    obtain ⟨source, warnings, hsource, htotal⟩ := source_of_readListing hread
    -- even a text without a line break is a line, so there is something to send
    have hlines : lines ≠ [] := by
      rw [← List.length_pos_iff, htotal]
      exact List.length_pos_iff.mpr (Text.lines_ne_nil source.code)
    have hne : batches ≠ [] := planBatches_ne_nil hplan hlines
    have hrun : run = (runFrom (runBatches host analyze path
        { path := file, totalLines := lines.length } batches) planned).1 := by
      show (runFrom (detect host settings file options analyzer counter) s).1 = _
      rw [runFrom_detect_configured hchosen, runFrom_runWith_planned hread hplan]
    have hstart : Pending { path := file, totalLines := lines.length } := ⟨rfl, rfl, rfl, rfl⟩
    obtain ⟨hended, hcount, replies, after, hrest⟩ :=
      runFrom_runBatches_exchange host analyze path hstart hne planned
    rw [hrun]
    refine ⟨⟨source, warnings, hsource, ?_⟩, hcount, ?_, replies, after, hrest⟩
    · rw [hended, htotal]
    · have := List.length_pos_iff.mpr hne
      omega

/-! ## A run with a late answer -/

/-- A failure to answer in time. -/
def lateAnswer : Failure where
  fault := { name := "TimeoutError", text := "late" }

/-- A world that counts calls, in which one file stands, with two lines. -/
def twoLineHost : Host (StateM Nat) where
  disk := {
    look := fun path =>
      pure (if path = Path.ofText "two.js" then .file [97, 59, 10, 98, 59] else .missing)
    write := fun _ _ => pure (.ok ()) }
  runtime := .usual
  transport := {
    now := pure 0
    writeTime := fun _ => ""
    send := fun _ => pure (.error lateAnswer)
    wait := fun _ => pure () }
  encodings := { ofModel? := fun _ => none, ofName := fun _ _ => 1 }
  warn := fun _ => pure ()
  tell := fun _ => pure ()

/-- The analyser whose first call is answered with a result, and every other too late. -/
def firstInTime : Analyzer (StateM Nat) := fun _ session calls =>
  ((if calls = 0 then .ok "\x7b\"summary\": \"vm\", \"regions\": []\x7d" else .error lateAnswer,
    session), calls + 1)

/-- Scripts are taken as they are. -/
def asWritten : Settings where
  beautify := false

/-- Every line has a batch of its own. -/
def lineByLine : Options where
  maxTokens := some 1

/-- The run over the file, with a late answer to its second batch. -/
def halfLate : Run :=
  (runFrom (detect twoLineHost asWritten "two.js" lineByLine (some firstInTime)
    (some fun _ => 1)) ({}, 0)).1

theorem exists_eq_ok {ε α : Type} {ended : Except ε α × (Session × σ)}
    (h : ended.1.isOk = true) : ∃ a after, ended = (.ok a, after) := by
  obtain ⟨fault | a, after⟩ := ended
  · cases h
  · exact ⟨a, after, rfl⟩

/-- A run with a late answer has a listing and two batches, and succeeds with the other one. -/
theorem detect_outcome_halfLate :
    ∃ lines listed batches planned,
      runFrom (readListing twoLineHost asWritten lineByLine (Path.ofText "two.js")) ({}, 0)
        = (.ok lines, listed) ∧
      runFrom (planBatches twoLineHost asWritten lineByLine (some fun _ => 1)
        (chosenLines lineByLine lines)) listed = (.ok batches, planned) ∧
      halfLate.batchCount = 2 ∧ halfLate.success = true ∧
      halfLate.partialErrors.length < halfLate.batchCount := by
  have hcount : halfLate.batchCount = 2 := by decide +kernel
  have hsuccess : halfLate.success = true := by decide +kernel
  have hlisted : (runFrom (readListing twoLineHost asWritten lineByLine (Path.ofText "two.js"))
      ({}, 0)).1.isOk = true := by decide +kernel
  have hplanned : (runFrom (readListing twoLineHost asWritten lineByLine (Path.ofText "two.js") >>=
      fun listing => planBatches twoLineHost asWritten lineByLine (some fun _ => 1)
        (chosenLines lineByLine (listing.toOption.getD []))) ({}, 0)).1.isOk = true := by
    decide +kernel
  obtain ⟨lines, listed, hread⟩ := exists_eq_ok hlisted
  rw [runFrom_bind, hread] at hplanned
  obtain ⟨batches, planned, hplan⟩ := exists_eq_ok hplanned
  obtain ⟨-, -, -, replies, after, -, -, -, hmerged, -⟩ :=
    (detect_outcome twoLineHost asWritten "two.js" lineByLine (some firstInTime)
      (some fun _ => 1) ({}, 0)).2.2 firstInTime lines listed batches planned rfl hread hplan
  exact ⟨lines, listed, batches, planned, hread, hplan, hcount, hsuccess, (hmerged hsuccess).2⟩

end VmScan.Detection
