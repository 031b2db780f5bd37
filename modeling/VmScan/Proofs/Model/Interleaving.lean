import VmScan.Proofs.Model.Outages

/-!
# Calls at the same time

Any number of calls run at the same time over one registry. Each goes step by step: it looks at the
breaker of its model, sends its request, records how that ended, and perhaps tries again. Between
two steps of a call any steps of the others may be taken, so a breaker may have been opened or
closed by others when a call comes back to it.

* `Phase`, `Action` — where a call stands, and a step that it takes with what it learns there.
* `advance` — one step of one call.
* `Traffic`, `run` — calls over one registry, and the steps of a schedule taken one after another.
* `Alike` — two states in which one model and the calls to it cannot be told apart.
* `callSteps` — the steps of a call by itself.

Results:
* `advance_callSteps`: such a call goes the course of a call.
* `advance_congr`, `kept?_advance`: a step reads and changes the entry of its own model only.
* `Alike.step`, `Alike.step_other`: a step of a call to the model keeps two states alike, and a
  step of another call is not seen.
* `run_alone`: the calls to one model run as they would without the others.
-/

namespace VmScan.Model

/-! ## One call -/

/-- Where a call stands, behind a number of rate limits. -/
inductive Phase where
  /-- The breaker is looked at next. -/
  | ready (limited : Nat)
  /-- The request is sent next. -/
  | admitted (limited : Nat)
  /-- The request is under way. -/
  | waiting (limited : Nat)
  /-- The call waits before it tries again. -/
  | pausing (limited : Nat)
  | ended (outcome : Except Failure Completion)

/-- A step of a call, with what it learns from outside. -/
inductive Action where
  | check (now : Rat)
  | start
  | finish (reply : Reply)
  | retry

/-- Where a call stands once its request has ended: only a rate limit is tried again, and not for
ever. -/
def Phase.behind (limited : Nat) (outcome : Except Failure Completion) : Phase :=
  if isLimit outcome = true ∧ limited + 1 < maxAttempts then .pausing (limited + 1)
  else .ended outcome

/-- Where a call stands behind a step, if it stands before such a step. -/
def Phase.next (writeTime : Rat → String) (request : Request) (breaker : Breaker) :
    Phase → Action → Option Phase
  | .ready limited, .check now =>
    match breaker.refusal? request.model now writeTime with
    | some fault => some (.ended (.error { fault }))
    | none => some (.admitted limited)
  | .admitted limited, .start => some (.waiting limited)
  | .waiting limited, .finish reply => some (.behind limited reply.outcome)
  | .pausing limited, .retry => some (.ready limited)
  | _, _ => none

/-- The registry behind a step of a call to the model. -/
def Action.effect (model : String) (registry : Registry) : Action → Registry
  | .check _ => registry.enter model
  | .finish reply => registry.leave model reply.ended reply.outcome
  | .start | .retry => registry

/-- One step of a call over the registry. -/
def advance (writeTime : Rat → String) (request : Request) (state : Phase × Registry)
    (action : Action) : Option (Phase × Registry) :=
  (state.1.next writeTime request (state.2.breaker request.model) action).map
    (·, action.effect request.model state.2)

/-! ## A call by itself -/

section Alone

variable {σ : Type} (transport : Transport (StateM σ)) (request : Request)

/-- The steps of one request. -/
def trialSteps (s : Registry × σ) : List Action :=
  .check (clock transport s.2) ::
    (trial transport request s).replies.flatMap fun reply => [.start, .finish reply]

/-- The steps of a request with at most `more` retries behind `limited` rate limits. -/
def trialsSteps (limited : Nat) : Nat → Registry × σ → List Action
  | 0, s => trialSteps transport request s
  | more + 1, s =>
    if isLimit (trial transport request s).outcome then
      trialSteps transport request s ++ .retry :: trialsSteps (limited + 1) more
        (waited transport (limited + 1) (trial transport request s).after)
    else trialSteps transport request s

/-- The steps of a call that no other interrupts. -/
def callSteps (s : Registry × σ) : List Action :=
  trialsSteps transport request 0 (maxAttempts - 1) s

theorem advance_trialSteps (limited : Nat) (s : Registry × σ) :
    (trialSteps transport request s).foldlM (advance transport.writeTime request)
        (.ready limited, s.1)
      = some (.behind limited (trial transport request s).outcome,
          (trial transport request s).after.1) := by
  unfold trialSteps trial
  rw [List.foldlM_cons]
  unfold advance Phase.next
  cases hrefusal : refusalOf transport request s with
  | some fault =>
    have hlimit := (Breaker.name_of_refusal? hrefusal).2
    rw [refusalOf, Registry.breaker_enter] at hrefusal
    simp only [hrefusal, refused]
    rw [Phase.behind, if_neg (by simp [isLimit, hlimit])]
    rfl
  | none =>
    rw [refusalOf, Registry.breaker_enter] at hrefusal
    simp only [hrefusal]
    rfl

theorem advance_trialsSteps (limited more : Nat) (s : Registry × σ)
    (hattempts : limited + more + 1 = maxAttempts) :
    (trialsSteps transport request limited more s).foldlM (advance transport.writeTime request)
        (.ready limited, s.1)
      = some (.ended (trials transport request limited more s).outcome,
          (trials transport request limited more s).after.1) := by
  induction more generalizing limited s with
  | zero =>
    unfold trialsSteps trials
    rw [advance_trialSteps, Phase.behind, if_neg (by omega)]
  | succ more ih =>
    unfold trialsSteps trials
    simp only
    split_ifs with hlimit
    · rw [List.foldlM_append, advance_trialSteps, Phase.behind, if_pos ⟨hlimit, by omega⟩]
      exact ih (limited + 1) (waited transport (limited + 1) _) (by omega)
    · rw [advance_trialSteps, Phase.behind, if_neg fun h => hlimit h.1]

/-- **A call that no other interrupts** goes the course of a call. -/
theorem advance_callSteps (s : Registry × σ) :
    (callSteps transport request s).foldlM (advance transport.writeTime request) (.ready 0, s.1)
      = some (.ended (course transport request s).outcome,
          (course transport request s).after.1) :=
  advance_trialsSteps transport request 0 (maxAttempts - 1) s rfl

end Alone

/-! ## What a step reads and changes -/

section Step

variable {writeTime : Rat → String} {request : Request} {phase next : Phase} {action : Action}
  {registry other after : Registry} {model : String}

/-- What a step does to the entry of its model is decided by that entry. -/
theorem kept?_effect_congr (action : Action) (h : registry.kept? model = other.kept? model) :
    (action.effect model registry).kept? model = (action.effect model other).kept? model := by
  have hbreaker : registry.breaker model = other.breaker model := by
    rw [Registry.breaker_eq_getD, Registry.breaker_eq_getD, h]
  cases action with
  | check now => rw [Action.effect, Action.effect, Registry.kept?_enter, Registry.kept?_enter,
      if_pos rfl, if_pos rfl, hbreaker]
  | finish reply => rw [Action.effect, Action.effect, Registry.kept?_leave, Registry.kept?_leave,
      if_pos rfl, if_pos rfl, hbreaker]
  | start => exact h
  | retry => exact h

/-- A step leaves the entries of other models as they are. -/
theorem kept?_effect_of_ne (action : Action) (registry : Registry) {unseen : String}
    (h : unseen ≠ model) :
    (action.effect model registry).kept? unseen = registry.kept? unseen := by
  cases action with
  | check now => rw [Action.effect, Registry.kept?_enter, if_neg h]
  | finish reply => rw [Action.effect, Registry.kept?_leave, if_neg h]
  | start => rfl
  | retry => rfl

/-- **A step reads the entry of its own model only.** -/
theorem advance_congr (hsame : registry.kept? request.model = other.kept? request.model)
    (h : advance writeTime request (phase, registry) action = some (next, after)) :
    ∃ after', advance writeTime request (phase, other) action = some (next, after') ∧
      after.kept? request.model = after'.kept? request.model := by
  have hbreaker : registry.breaker request.model = other.breaker request.model := by
    rw [Registry.breaker_eq_getD, Registry.breaker_eq_getD, hsame]
  obtain ⟨phase', hnext, hafter⟩ := Option.map_eq_some_iff.mp h
  obtain ⟨rfl, rfl⟩ := Prod.mk.inj hafter
  refine ⟨action.effect request.model other, ?_, kept?_effect_congr action hsame⟩
  rw [advance, ← hbreaker, hnext]
  rfl

/-- **A step changes the entry of its own model only.** -/
theorem kept?_advance (h : advance writeTime request (phase, registry) action = some (next, after))
    {unseen : String} (hunseen : unseen ≠ request.model) :
    after.kept? unseen = registry.kept? unseen := by
  obtain ⟨phase', -, hafter⟩ := Option.map_eq_some_iff.mp h
  obtain ⟨-, rfl⟩ := Prod.mk.inj hafter
  exact kept?_effect_of_ne action registry hunseen

end Step

/-! ## Calls over one registry -/

/-- Calls at the same time. -/
structure Traffic (ι : Type) where
  registry : Registry := []
  /-- Where each call stands. -/
  phases : ι → Phase := fun _ => .ready 0
  /-- The requests that were sent, each with its call, in order. -/
  sent : List (ι × Request) := []

section Traffic

variable {ι : Type} [DecidableEq ι] (writeTime : Rat → String) (requests : ι → Request)

/-- The requests that are sent by a step of a call. -/
def sentBy (taken : ι × Action) : List (ι × Request) :=
  match taken.2 with
  | .start => [(taken.1, requests taken.1)]
  | _ => []

/-- The calls once one of them has taken a step. -/
def Traffic.moved (traffic : Traffic ι) (taken : ι × Action) (stands : Phase × Registry) :
    Traffic ι where
  registry := stands.2
  phases := Function.update traffic.phases taken.1 stands.1
  sent := traffic.sent ++ sentBy requests taken

/-- A step of one of the calls. -/
def Traffic.step (traffic : Traffic ι) (taken : ι × Action) : Option (Traffic ι) :=
  (advance writeTime (requests taken.1) (traffic.phases taken.1, traffic.registry) taken.2).map
    (traffic.moved requests taken)

/-- The steps of a schedule one after another, from where no model was met and no call has begun. -/
def run (schedule : List (ι × Action)) : Option (Traffic ι) :=
  schedule.foldlM (Traffic.step writeTime requests) {}

/-- The steps of the calls to a model. -/
def stepsTo (model : String) (schedule : List (ι × Action)) : List (ι × Action) :=
  schedule.filter fun taken => (requests taken.1).model = model

/-- The model and the calls to it cannot be told apart: the breaker of the model is the same, each
call to it stands where it stood, and the same requests were sent to it by the same calls. -/
structure Alike (model : String) (traffic other : Traffic ι) : Prop where
  breaker : traffic.registry.kept? model = other.registry.kept? model
  phases : ∀ i, (requests i).model = model → traffic.phases i = other.phases i
  sent : traffic.sent.filter (·.2.model = model) = other.sent.filter (·.2.model = model)

variable {writeTime requests} {model : String} {traffic other after : Traffic ι}
  {taken : ι × Action}

theorem phases_moved (stands : Phase × Registry) (i : ι) :
    (traffic.moved requests taken stands).phases i
      = if i = taken.1 then stands.1 else traffic.phases i :=
  Function.update_apply ..

/-- A step of a call to the model keeps two states alike. -/
theorem Alike.step (h : Alike requests model traffic other)
    (hmodel : (requests taken.1).model = model)
    (hstep : traffic.step writeTime requests taken = some after) :
    ∃ after', other.step writeTime requests taken = some after' ∧
      Alike requests model after after' := by
  subst hmodel
  obtain ⟨⟨phase, registry⟩, hadvance, rfl⟩ := Option.map_eq_some_iff.mp hstep
  obtain ⟨registry', hadvance', hentry⟩ := advance_congr h.breaker hadvance
  rw [h.phases taken.1 rfl] at hadvance'
  refine ⟨other.moved requests taken (phase, registry'), by rw [Traffic.step, hadvance']; rfl,
    hentry, fun i hi => ?_, ?_⟩
  · rw [phases_moved, phases_moved, h.phases i hi]
  · rw [Traffic.moved, Traffic.moved, List.filter_append, List.filter_append, h.sent]

/-- A step of a call to another model is not seen. -/
theorem Alike.step_other (h : Alike requests model traffic other)
    (hmodel : (requests taken.1).model ≠ model)
    (hstep : traffic.step writeTime requests taken = some after) :
    Alike requests model after other := by
  obtain ⟨⟨phase, registry⟩, hadvance, rfl⟩ := Option.map_eq_some_iff.mp hstep
  refine ⟨?_, fun i hi => ?_, ?_⟩
  · exact (kept?_advance hadvance (Ne.symm hmodel)).trans h.breaker
  · have hne : i ≠ taken.1 := fun heq => hmodel (heq ▸ hi)
    rw [phases_moved, if_neg hne, h.phases i hi]
  · have hunsent : (sentBy requests taken).filter (·.2.model = model) = [] := by
      unfold sentBy
      split <;> simp [hmodel]
    rw [Traffic.moved, List.filter_append, hunsent, List.append_nil, h.sent]

/-- The steps of the calls to the model alone lead to a state in which the model and the calls to
it stand as they do among the others. -/
theorem Alike.run (h : Alike requests model traffic other) {schedule : List (ι × Action)}
    (hrun : schedule.foldlM (Traffic.step writeTime requests) traffic = some after) :
    ∃ alone, (stepsTo requests model schedule).foldlM (Traffic.step writeTime requests) other
      = some alone ∧ Alike requests model after alone := by
  induction schedule generalizing traffic other with
  | nil =>
    obtain rfl := Option.some.inj hrun
    exact ⟨other, rfl, h⟩
  | cons taken rest ih =>
    rw [List.foldlM_cons] at hrun
    obtain ⟨between, hstep, hrest⟩ := Option.bind_eq_some_iff.mp hrun
    by_cases hmodel : (requests taken.1).model = model
    · obtain ⟨between', hstep', hbetween⟩ := h.step hmodel hstep
      obtain ⟨alone, halone, hafter⟩ := ih hbetween hrest
      refine ⟨alone, ?_, hafter⟩
      rw [stepsTo, List.filter_cons_of_pos (by simpa using hmodel), List.foldlM_cons, hstep']
      exact halone
    · obtain ⟨alone, halone, hafter⟩ := ih (h.step_other hmodel hstep) hrest
      refine ⟨alone, ?_, hafter⟩
      rw [stepsTo, List.filter_cons_of_neg (by simpa using hmodel)]
      exact halone

/-- The first steps of a schedule can be taken where all of them can. -/
theorem exists_run_take {schedule : List (ι × Action)}
    (h : run writeTime requests schedule = some after) (n : Nat) :
    ∃ before, run writeTime requests (schedule.take n) = some before := by
  rw [run, ← List.take_append_drop n schedule, List.foldlM_append] at h
  obtain ⟨before, hbefore, -⟩ := Option.bind_eq_some_iff.mp h
  exact ⟨before, hbefore⟩

end Traffic

/-- **Calls to a model run as they would without the others.** After every step of a schedule the
model has the breaker, each call to it stands where it stands and has ended as it has ended, and
the requests to it are those that were sent, as after the steps of the calls to that model alone.
The steps are those of a call, and a call that takes them without others between them goes from its
start to its end as it does by itself. -/
theorem run_alone {ι : Type} [DecidableEq ι] (writeTime : Rat → String) (requests : ι → Request)
    (schedule : List (ι × Action)) (last : Traffic ι)
    (h : run writeTime requests schedule = some last) (model : String) :
    (∀ n, ∃ together alone,
      run writeTime requests (schedule.take n) = some together ∧
      run writeTime requests (stepsTo requests model (schedule.take n)) = some alone ∧
      Alike requests model together alone) ∧
    ∀ (σ : Type) (transport : Transport (StateM σ)) (request : Request) (s : Registry × σ),
      ∃ outcome after,
        runIn (call transport request) s = (outcome.map (·.answer request.model), after) ∧
        (callSteps transport request s).foldlM (advance transport.writeTime request)
          (.ready 0, s.1) = some (.ended outcome, after.1) := by
  constructor
  · intro n
    obtain ⟨together, htogether⟩ := exists_run_take h n
    have hstart : Alike requests model ({} : Traffic ι) {} := ⟨rfl, fun _ _ => rfl, rfl⟩
    obtain ⟨alone, halone, halike⟩ := hstart.run htogether
    exact ⟨together, alone, htogether, halone, halike⟩
  · intro σ transport request s
    exact ⟨(course transport request s).outcome, (course transport request s).after,
      runIn_call transport request s, advance_callSteps transport request s⟩

/-! ## An outage beside a call -/

/-- A request to another model. -/
def askOther : Request where
  model := "n"
  messages := []
  timeout := 60

/-- The first call is to a model of its own. -/
def firstApart (i : Nat) : Request :=
  if i = 0 then askOther else ask

/-- While the first call waits for its answer, five calls to the other model fail and a sixth one is
refused. -/
def outageBeside : List (Nat × Action) :=
  [(0, .check 0), (0, .start)]
    ++ (List.range 5).flatMap (fun i =>
      [(i + 1, .check 0), (i + 1, .start), (i + 1, .finish { outcome := late, ended := 0 })])
    ++ [(6, .check 0), (0, .finish { outcome := slowDown, ended := 1 }), (0, .retry),
      (0, .check 3), (0, .start)]

/-- The call is rate-limited and tries again as if there were no outage beside it. -/
theorem run_alone_outageBeside :
    ∃ last together alone, run (fun _ => "") firstApart outageBeside = some last ∧
      run (fun _ => "") firstApart outageBeside = some together ∧
      run (fun _ => "") firstApart
        [(0, .check 0), (0, .start), (0, .finish { outcome := slowDown, ended := 1 }), (0, .retry),
          (0, .check 3), (0, .start)] = some alone ∧
      Alike firstApart "n" together alone := by
  have hruns : (run (fun _ => "") firstApart outageBeside).isSome = true := by decide +kernel
  obtain ⟨last, hlast⟩ := Option.isSome_iff_exists.mp hruns
  obtain ⟨together, alone, htogether, halone, halike⟩ :=
    (run_alone (fun _ => "") firstApart outageBeside last hlast "n").1 22
  exact ⟨last, together, alone, hlast, htogether, halone, halike⟩

end VmScan.Model
