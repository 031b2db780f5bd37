import Mathlib.Logic.Function.Basic
import Mathlib.Tactic.SplitIfs
import VmScan.Proofs.Detection.Outcomes

/-!
# A failed batch leaves the others alone

Batches are sent (`process_batches`) to an analyser that follows a script: its `k`-th call is
answered with the `k`-th reply, a text or a failure. Everything that happens is written down in
order.

* `Event` — something that happens: a text is sent to the analyser, or progress is told.
* `scripted`, `record` — the analyser that follows a script, and the listener that writes down.
* `eventsOf` — what happens for one batch.

Results:
* `analyzeFrom_scripted`: a run gives the outcomes of the replies, and for each batch one call
  followed by one event of progress.
* `analyzeBatches_isolated`: what a run accounts for, and that another reply to one batch changes
  nothing but that batch's entry and event.
-/

namespace VmScan.Detection

/-! ## Scripts -/

/-- Something that happens while batches are analysed. -/
inductive Event where
  | sent (content : String)
  | told (progress : Progress)
  deriving DecidableEq, Repr

/-- The text that is sent. -/
def Event.sent? : Event → Option String
  | .sent content => some content
  | .told _ => none

/-- The progress that is told. -/
def Event.told? : Event → Option Progress
  | .sent _ => none
  | .told progress => some progress

/-- The texts that were sent. -/
def sentTexts (events : List Event) : List String :=
  events.filterMap Event.sent?

/-- The progress that was told. -/
def toldProgress (events : List Event) : List Progress :=
  events.filterMap Event.told?

/-- The analyser whose `k`-th call is answered with the `k`-th reply of the script. -/
def scripted (script : Nat → Except Failure String) (content : String) :
    StateM (List Event) (Except Failure String) :=
  fun events => (script (sentTexts events).length, events ++ [.sent content])

/-- The listener that writes down what it is told after each of `total` batches. -/
def record (total : Nat) (outcome : BatchOutcome) : StateM (List Event) Unit :=
  fun events => ((), events ++ [.told (outcome.progress total)])

/-- What happens for one batch: a call, and then one event of progress. -/
def eventsOf (total : Nat) (outcome : BatchOutcome) : List Event :=
  [.sent outcome.batch.content, .told (outcome.progress total)]

/-- The outcomes and events of a run over the batches. -/
def scriptedRun (runtime : Json.Runtime) (batches : List Batch)
    (script : Nat → Except Failure String) :
    List BatchOutcome × List Event :=
  (analyzeBatches runtime (scripted script) (record batches.length) batches).run []

/-! ## Runs -/

theorem sentTexts_append (events more : List Event) :
    sentTexts (events ++ more) = sentTexts events ++ sentTexts more :=
  List.filterMap_append

theorem sentTexts_flatMap_eventsOf (total : Nat) (outcomes : List BatchOutcome) :
    sentTexts (outcomes.flatMap (eventsOf total)) = outcomes.map (·.batch.content) := by
  induction outcomes with
  | nil => rfl
  | cons outcome outcomes ih =>
    rw [List.flatMap_cons, sentTexts_append, ih]
    rfl

theorem toldProgress_flatMap_eventsOf (total : Nat) (outcomes : List BatchOutcome) :
    toldProgress (outcomes.flatMap (eventsOf total)) = outcomes.map (·.progress total) := by
  induction outcomes with
  | nil => rfl
  | cons outcome outcomes ih =>
    unfold toldProgress at *
    rw [List.flatMap_cons, List.filterMap_append, ih]
    rfl

/-- One batch: a call, an event of progress, and the run over the others behind these two. -/
theorem analyzeFrom_cons_scripted {runtime : Json.Runtime}
    {script : Nat → Except Failure String} {total index : Nat}
    {batch : Batch} {rest : List Batch} {events after : List Event} {outcome : BatchOutcome}
    {outcomes : List BatchOutcome}
    (houtcome : outcome = outcomeOf runtime ((batch, script (sentTexts events).length), index))
    (hrest : (analyzeFrom runtime (scripted script) (record total) (index + 1) rest).run
      (events ++ eventsOf total outcome) = (outcomes, after)) :
    (analyzeFrom runtime (scripted script) (record total) index (batch :: rest)).run events
      = (outcome :: outcomes, after) := by
  subst houtcome
  rw [eventsOf, ← List.singleton_append, ← List.append_assoc] at hrest
  have hstep :
      (analyzeFrom runtime (scripted script) (record total) index (batch :: rest)).run events
      = ((analyzeFrom runtime (scripted script) (record total) (index + 1) rest).run
          (events ++ [.sent batch.content] ++ [.told ((outcomeOf runtime
            ((batch, script (sentTexts events).length), index)).progress total)])).map
          (outcomeOf runtime ((batch, script (sentTexts events).length), index) :: ·) id := rfl
  rw [hstep]
  exact congrArg (Prod.map _ id) hrest

/-- **A run along a script.** Behind events with `index` calls, the replies from number `index` on
answer the batches, and what happens is one call and one event of progress for each batch. -/
theorem analyzeFrom_scripted (runtime : Json.Runtime) (script : Nat → Except Failure String)
    (total : Nat) (batches : List Batch) (events : List Event) :
    (analyzeFrom runtime (scripted script) (record total) (sentTexts events).length batches).run
        events =
      let outcomes := outcomesOf runtime (sentTexts events).length batches
        ((List.range' (sentTexts events).length batches.length).map script)
      (outcomes, events ++ outcomes.flatMap (eventsOf total)) := by
  induction batches generalizing events with
  | nil =>
    show (([], events) : List BatchOutcome × List Event) = ([], events ++ [])
    rw [List.append_nil]
  | cons batch rest ih =>
    let outcome := outcomeOf runtime ((batch, script (sentTexts events).length),
      (sentTexts events).length)
    -- the call made for this batch is one more for the next
    have hnext : (sentTexts (events ++ eventsOf total outcome)).length
        = (sentTexts events).length + 1 := by
      rw [sentTexts_append, List.length_append]
      rfl
    have hrest := ih (events ++ eventsOf total outcome)
    rw [hnext] at hrest
    rw [analyzeFrom_cons_scripted rfl hrest, List.length_cons, List.range'_succ, List.map_cons,
      outcomesOf_cons]
    refine Prod.ext rfl ?_
    show _ = events ++ List.flatMap (eventsOf total) (_ :: _)
    rw [List.flatMap_cons, ← List.append_assoc]
    rfl

/-- A run over batches: the outcomes of the replies, with one call and one event for each. -/
theorem scriptedRun_eq (runtime : Json.Runtime) (batches : List Batch)
    (script : Nat → Except Failure String) :
    scriptedRun runtime batches script =
      let outcomes := outcomesOf runtime 0 batches ((List.range batches.length).map script)
      (outcomes, outcomes.flatMap (eventsOf batches.length)) := by
  have hrun := analyzeFrom_scripted runtime script batches.length batches []
  rw [List.range_eq_range']
  exact hrun

section Run

variable (runtime : Json.Runtime) (batches : List Batch) (script : Nat → Except Failure String)

theorem length_replies :
    ((List.range batches.length).map script).length = batches.length := by
  rw [List.length_map, List.length_range]

theorem length_scriptedRun : (scriptedRun runtime batches script).1.length = batches.length := by
  rw [scriptedRun_eq]
  exact length_outcomesOf 0 (length_replies batches script)

/-- Each batch is sent once, in order, whatever the script says. -/
theorem sentTexts_scriptedRun :
    sentTexts (scriptedRun runtime batches script).2 = batches.map (·.content) := by
  have hbatches := map_batch_outcomesOf runtime 0 (length_replies batches script)
  calc sentTexts (scriptedRun runtime batches script).2
      = (outcomesOf runtime 0 batches ((List.range batches.length).map script)).map
          (·.batch.content) := by
        rw [scriptedRun_eq, sentTexts_flatMap_eventsOf]
    _ = ((outcomesOf runtime 0 batches ((List.range batches.length).map script)).map (·.batch)).map
          (·.content) := by
        rw [List.map_map]
        rfl
    _ = batches.map (·.content) := by rw [hbatches]

theorem toldProgress_scriptedRun :
    toldProgress (scriptedRun runtime batches script).2
      = (scriptedRun runtime batches script).1.map (·.progress batches.length) := by
  rw [scriptedRun_eq, toldProgress_flatMap_eventsOf]

theorem getElem?_scriptedRun {i : Nat} {batch : Batch} (h : batches[i]? = some batch) :
    (scriptedRun runtime batches script).1[i]?
      = some (outcomeOf runtime ((batch, script i), i)) := by
  have hreply : ((List.range batches.length).map script)[i]? = some (script i) := by
    rw [List.getElem?_map, List.getElem?_range (List.getElem?_eq_some_iff.mp h).1, Option.map_some]
  rw [scriptedRun_eq, getElem?_outcomesOf 0 h hreply, Nat.zero_add]

end Run

/-! ## Another reply to one batch -/

theorem map_update_range (script : Nat → Except Failure String) (k n : Nat)
    (reply : Except Failure String) :
    (List.range n).map (Function.update script k reply)
      = ((List.range n).map script).set k reply := by
  refine List.ext_getElem? fun i => ?_
  rw [List.getElem?_map, List.getElem?_set, List.length_map, List.length_range, List.getElem?_map]
  by_cases hi : k = i
  · subst hi
    by_cases hk : k < n
    · rw [List.getElem?_range hk, if_pos rfl, if_pos hk, Option.map_some, Function.update_self]
    · rw [List.getElem?_eq_none (by rw [List.length_range]; omega), if_pos rfl, if_neg hk]
      rfl
  · rw [if_neg hi]
    rcases Nat.lt_or_ge i n with hlt | hge
    · rw [List.getElem?_range hlt, Option.map_some, Option.map_some,
        Function.update_of_ne (Ne.symm hi)]
    · rw [List.getElem?_eq_none (by rw [List.length_range]; omega)]
      rfl

/-- Another reply to one batch is another outcome of that batch alone. -/
theorem scriptedRun_update (runtime : Json.Runtime) (batches : List Batch)
    (script : Nat → Except Failure String) {k : Nat} {batch : Batch}
    (reply : Except Failure String) (h : batches[k]? = some batch) :
    (scriptedRun runtime batches (Function.update script k reply)).1
      = (scriptedRun runtime batches script).1.set k (outcomeOf runtime ((batch, reply), k)) := by
  rw [scriptedRun_eq, scriptedRun_eq, map_update_range, outcomesOf_set 0 h, Nat.zero_add]

/-- What a list yields once one of its items is another. -/
theorem filterMap_set {α β : Type} (f : α → Option β) {items : List α} {k : Nat} (item : α)
    (h : k < items.length) :
    (items.set k item).filterMap f
      = (items.take k).filterMap f ++ (f item).toList ++ (items.drop (k + 1)).filterMap f := by
  rw [List.set_eq_take_append_cons_drop, if_pos h, List.filterMap_append, List.append_assoc]
  cases hf : f item <;> simp [hf]

/-- **Batch failures are isolated and accounted for.** Each batch is sent once, in order, and told
about before the next is sent. The results are those of the replies that give one, the messages
those about the other batches, both in the order of the batches, and together they are as many as
the batches. What is told about a batch agrees with the list to which it went. Another reply to one
batch changes what is told about it and its place in the lists, and nothing else. -/
theorem analyzeBatches_isolated (runtime : Json.Runtime) (batches : List Batch)
    (script : Nat → Except Failure String) :
    let outcomes := (scriptedRun runtime batches script).1
    let events := (scriptedRun runtime batches script).2
    let replies := (List.range batches.length).map script
    sentTexts events = batches.map (·.content) ∧
      events = outcomes.flatMap (eventsOf batches.length) ∧
      resultsOf outcomes = replies.filterMap (parsed? runtime) ∧
      errorsOf outcomes = (batches.zip replies).zipIdx.filterMap (fun ((batch, reply), i) =>
        (failureText? runtime reply).map fun text =>
          s!"Batch {i + 1} (lines {batch.start}-{batch.finish}) failed: {text}") ∧
      (resultsOf outcomes).length + (errorsOf outcomes).length = batches.length ∧
      (toldProgress events).length = batches.length ∧
      (∀ i batch, batches[i]? = some batch → ∃ progress : Progress,
        (toldProgress events)[i]? = some progress ∧ progress.index = i ∧
        progress.total = batches.length ∧ progress.lines = s!"{batch.start}-{batch.finish}" ∧
        (progress.ok = true ↔ (parsed? runtime (script i)).isSome = true) ∧
        progress.error = (failureText? runtime (script i)).map fun text =>
          s!"Batch {i + 1} (lines {batch.start}-{batch.finish}) failed: {text}") ∧
      ∀ k batch reply, batches[k]? = some batch →
        let changed := scriptedRun runtime batches (Function.update script k reply)
        sentTexts changed.2 = sentTexts events ∧
        (∀ i, i ≠ k → (toldProgress changed.2)[i]? = (toldProgress events)[i]?) ∧
        resultsOf changed.1 = resultsOf (outcomes.take k) ++ (parsed? runtime reply).toList
          ++ resultsOf (outcomes.drop (k + 1)) ∧
        errorsOf changed.1 = errorsOf (outcomes.take k)
          ++ (errorText? runtime ((batch, reply), k)).toList
          ++ errorsOf (outcomes.drop (k + 1)) := by
  intro outcomes events replies
  have hrun : outcomes = outcomesOf runtime 0 batches replies :=
    congrArg Prod.fst (scriptedRun_eq runtime batches script)
  refine ⟨sentTexts_scriptedRun runtime batches script, ?_, ?_, ?_, ?_, ?_, ?_, ?_⟩
  · rw [hrun]
    exact congrArg Prod.snd (scriptedRun_eq runtime batches script)
  · rw [hrun, resultsOf_outcomesOf 0 (length_replies batches script)]
  · rw [hrun, errorsOf_outcomesOf]
    rfl
  · rw [length_resultsOf_add_errorsOf, length_scriptedRun]
  · rw [toldProgress_scriptedRun, List.length_map, length_scriptedRun]
  · intro i batch hbatch
    have herror : ((outcomeOf runtime ((batch, script i), i)).progress batches.length).error
        = errorText? runtime ((batch, script i), i) := error?_outcomeOf runtime _
    refine ⟨(outcomeOf runtime ((batch, script i), i)).progress batches.length, ?_, rfl, rfl, rfl,
      ?_, herror⟩
    · rw [toldProgress_scriptedRun, List.getElem?_map,
        getElem?_scriptedRun runtime batches script hbatch, Option.map_some]
    · rw [Progress.ok, herror, ← failureText?_eq_none_iff runtime, Option.isNone_iff_eq_none,
        errorText?, Option.map_eq_none_iff]
  · intro k batch reply hbatch changed
    have hlt : k < outcomes.length := by
      rw [length_scriptedRun]
      exact (List.getElem?_eq_some_iff.mp hbatch).1
    have hchanged : changed.1 = outcomes.set k (outcomeOf runtime ((batch, reply), k)) :=
      scriptedRun_update runtime batches script reply hbatch
    refine ⟨?_, ?_, ?_, ?_⟩
    · rw [sentTexts_scriptedRun, sentTexts_scriptedRun]
    · intro i hi
      rw [toldProgress_scriptedRun, hchanged, toldProgress_scriptedRun, List.map_set,
        List.getElem?_set_ne hi.symm]
    · rw [hchanged, ← result?_outcomeOf runtime ((batch, reply), k)]
      exact filterMap_set _ _ hlt
    · rw [hchanged, ← error?_outcomeOf runtime ((batch, reply), k)]
      exact filterMap_set _ _ hlt

end VmScan.Detection
