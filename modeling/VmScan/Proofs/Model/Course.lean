import VmScan.Proofs.Model.Registry
import VmScan.Proofs.Model.Replies

/-!
# The course of a call

A call (`guarded_llm_call`) runs in an arbitrary world: the clock, the provider and the waiting are
functions of a state that they may change. What it does is told by the replies to the requests that
it sends.

* `runIn` — a step as a function of the registry and the world.
* `Course`, `trial`, `course` — what one request, and what a call with its retries, does in a world.

Results:
* `runIn_call`: a call ends as its course tells, in every world.
* `trial_of_opened`, `trial_of_not_opened`: one request is refused, or gets one reply.
* `breaker_after_course`: a call settles the breaker of its model reply by reply.
* `course_of_opened`, `exists_course_of_not_opened`: a call is refused before it has sent anything,
  or ends as its last request did, each request before having been refused as one too many.
-/

namespace VmScan.Model

variable {σ : Type}

/-! ## Courses -/

/-- A step as a function of the registry and the world. -/
def runIn {α : Type} (step : StateT Registry (StateM σ) α) (s : Registry × σ) :
    α × (Registry × σ) :=
  let ended := (step.run s.1).run s.2
  (ended.1.1, ended.1.2, ended.2)

theorem runIn_bind {α β : Type} (step : StateT Registry (StateM σ) α)
    (next : α → StateT Registry (StateM σ) β) (s : Registry × σ) :
    runIn (step >>= next) s = runIn (next (runIn step s).1) (runIn step s).2 := rfl

/-- What requests to a model came to. -/
structure Course (σ : Type) where
  /-- The replies to the requests that were sent, in order. -/
  replies : List Reply
  outcome : Except Failure Completion
  /-- The registry and the world that are left behind. -/
  after : Registry × σ

/-- The time on the clock of the world. -/
def clock (transport : Transport (StateM σ)) (w : σ) : Rat :=
  (transport.now.run w).1

/-- The refusal of a request, if the breaker of its model is open. -/
def refusalOf (transport : Transport (StateM σ)) (request : Request) (s : Registry × σ) :
    Option Fault :=
  ((s.1.enter request.model).breaker request.model).refusal? request.model (clock transport s.2)
    transport.writeTime

/-- The course of a request that is refused. -/
def refused (transport : Transport (StateM σ)) (request : Request) (s : Registry × σ)
    (fault : Fault) : Course σ where
  replies := []
  outcome := .error { fault }
  after := (s.1.enter request.model, (transport.now.run s.2).2)

/-- The course of a request that is sent. -/
def sent (transport : Transport (StateM σ)) (request : Request) (s : Registry × σ) : Course σ :=
  let answered := (transport.send request).run (transport.now.run s.2).2
  let ended := transport.now.run answered.2
  { replies := [{ outcome := answered.1, ended := ended.1 }]
    outcome := answered.1
    after := ((s.1.enter request.model).leave request.model ended.1 answered.1, ended.2) }

/-- What one request comes to. -/
def trial (transport : Transport (StateM σ)) (request : Request) (s : Registry × σ) : Course σ :=
  match refusalOf transport request s with
  | some fault => refused transport request s fault
  | none => sent transport request s

/-- The world after the wait behind the given number of rate limits. -/
def waited (transport : Transport (StateM σ)) (limited : Nat) (s : Registry × σ) : Registry × σ :=
  (s.1, ((transport.wait (waitAfter limited)).run s.2).2)

/-- What a request comes to with at most `more` retries behind `limited` rate limits. -/
def trials (transport : Transport (StateM σ)) (request : Request) (limited : Nat) :
    Nat → Registry × σ → Course σ
  | 0, s => trial transport request s
  | more + 1, s =>
    let first := trial transport request s
    if isLimit first.outcome then
      let others := trials transport request (limited + 1) more
        (waited transport (limited + 1) first.after)
      { others with replies := first.replies ++ others.replies }
    else first

/-- What a call comes to. -/
def course (transport : Transport (StateM σ)) (request : Request) (s : Registry × σ) : Course σ :=
  trials transport request 0 (maxAttempts - 1) s

section Run

variable (transport : Transport (StateM σ)) (request : Request)

theorem runIn_attempt (s : Registry × σ) :
    runIn (attempt transport request) s
      = ((trial transport request s).outcome, (trial transport request s).after) := by
  have hstep : runIn (attempt transport request) s =
      runIn (match refusalOf transport request s with
        | some fault => (return .error { fault } : StateT Registry (StateM σ) _)
        | none => do
          let outcome ← transport.send request
          let ended ← transport.now
          modify (·.leave request.model ended outcome)
          return outcome)
        (s.1.enter request.model, (transport.now.run s.2).2) := rfl
  rw [hstep]
  unfold trial
  cases refusalOf transport request s <;> rfl

theorem runIn_attempts (limited more : Nat) (s : Registry × σ) :
    runIn (attempts transport request limited more) s
      = ((trials transport request limited more s).outcome,
          (trials transport request limited more s).after) := by
  induction more generalizing limited s with
  | zero => exact runIn_attempt transport request s
  | succ more ih =>
    unfold attempts trials
    rw [runIn_bind, runIn_attempt]
    rcases houtcome : (trial transport request s).outcome with failure | completion
    · by_cases hlimit : failure.fault.isRateLimit = true
      · simp only [isLimit, houtcome, hlimit, if_true]
        exact ih (limited + 1) (waited transport (limited + 1) _)
      · simp only [isLimit, houtcome, hlimit, Bool.false_eq_true, if_false]
        rfl
    · simp only [isLimit, houtcome, Bool.false_eq_true, if_false]
      rfl

/-- **A call ends as its course tells**, in every world. -/
theorem runIn_call (s : Registry × σ) :
    runIn (call transport request) s
      = ((course transport request s).outcome.map (·.answer request.model),
          (course transport request s).after) := by
  unfold call
  rw [runIn_bind, runIn_attempts]
  unfold course
  cases (trials transport request 0 (maxAttempts - 1) s).outcome <;> rfl

end Run

/-! ## Refusals -/

section Facts

variable {transport : Transport (StateM σ)} {request : Request} {s : Registry × σ}

theorem refusalOf_isSome_iff : (refusalOf transport request s).isSome = true ↔
    (s.1.breaker request.model).state (clock transport s.2) = .opened := by
  rw [refusalOf, Breaker.refusal?_isSome_iff, Registry.breaker_enter]

/-- While the breaker is open a request is refused: the clock is read, and nothing else happens. -/
theorem trial_of_opened
    (h : (s.1.breaker request.model).state (clock transport s.2) = .opened) :
    ∃ fault : Fault, fault.name = "CircuitBreakerError" ∧ fault.isRateLimit = false ∧
      trial transport request s =
        { replies := []
          outcome := .error { fault }
          after := (s.1, (transport.now.run s.2).2) } := by
  obtain ⟨fault, hfault⟩ := Option.isSome_iff_exists.mp (refusalOf_isSome_iff.mpr h)
  obtain ⟨hname, hlimit⟩ := Breaker.name_of_refusal? hfault
  refine ⟨fault, hname, hlimit, ?_⟩
  rw [trial, hfault]
  -- an open breaker is not that of a new model, so no entry is added
  show refused transport request s fault = _
  rw [refused, Registry.enter_of_kept? (Registry.kept?_ne_none_of_opened h)]

theorem trial_of_not_opened
    (h : (s.1.breaker request.model).state (clock transport s.2) ≠ .opened) :
    trial transport request s = sent transport request s := by
  have hnone : refusalOf transport request s = none := by
    rw [← Option.not_isSome_iff_eq_none, refusalOf_isSome_iff]
    exact h
  rw [trial, hnone]

/-- A request that is sent has one reply, and ends as that tells. -/
theorem exists_sent (transport : Transport (StateM σ)) (request : Request) (s : Registry × σ) :
    ∃ reply, (sent transport request s).replies = [reply] ∧
      (sent transport request s).outcome = reply.outcome :=
  ⟨_, rfl, rfl⟩

/-! ## Breakers behind a call -/

theorem breaker_after_trial (transport : Transport (StateM σ)) (request : Request)
    (s : Registry × σ) (model : String) :
    (trial transport request s).after.1.breaker model =
      if model = request.model then
        (trial transport request s).replies.foldl settle (s.1.breaker model)
      else s.1.breaker model := by
  by_cases h : (s.1.breaker request.model).state (clock transport s.2) = .opened
  · obtain ⟨fault, -, -, htrial⟩ := trial_of_opened h
    rw [htrial]
    split <;> rfl
  · rw [trial_of_not_opened h]
    show ((s.1.enter request.model).leave request.model _ _).breaker model = _
    rw [Registry.breaker_leave, Registry.breaker_enter]
    rfl

theorem breaker_after_trials (transport : Transport (StateM σ)) (request : Request)
    (limited more : Nat) (s : Registry × σ) (model : String) :
    (trials transport request limited more s).after.1.breaker model =
      if model = request.model then
        (trials transport request limited more s).replies.foldl settle (s.1.breaker model)
      else s.1.breaker model := by
  induction more generalizing limited s with
  | zero => exact breaker_after_trial transport request s model
  | succ more ih =>
    have hfirst := breaker_after_trial transport request s model
    unfold trials
    simp only
    split
    · have hothers := ih (limited + 1)
        (waited transport (limited + 1) (trial transport request s).after)
      have hwaited : (waited transport (limited + 1) (trial transport request s).after).1
          = (trial transport request s).after.1 := rfl
      rw [hwaited, hfirst] at hothers
      rw [hothers]
      split
      · rw [List.foldl_append]
      · rfl
    · exact hfirst

/-- **A call settles the breaker of its model** reply by reply, and no other. -/
theorem breaker_after_course (transport : Transport (StateM σ)) (request : Request)
    (s : Registry × σ) (model : String) :
    (course transport request s).after.1.breaker model =
      if model = request.model then
        (course transport request s).replies.foldl settle (s.1.breaker model)
      else s.1.breaker model :=
  breaker_after_trials transport request 0 (maxAttempts - 1) s model

/-! ## Calls that are refused, and calls that are not -/

/-- While the breaker is open a call is refused: it sends nothing, and changes no breaker. -/
theorem course_of_opened
    (h : (s.1.breaker request.model).state (clock transport s.2) = .opened) :
    ∃ fault : Fault, fault.name = "CircuitBreakerError" ∧ fault.isRateLimit = false ∧
      course transport request s =
        { replies := []
          outcome := .error { fault }
          after := (s.1, (transport.now.run s.2).2) } := by
  obtain ⟨fault, hname, hlimit, htrial⟩ := trial_of_opened h
  refine ⟨fault, hname, hlimit, ?_⟩
  have hcourse : course transport request s = trial transport request s := by
    show trials transport request 0 2 s = _
    unfold trials
    simp only [htrial, isLimit, hlimit, Bool.false_eq_true, if_false]
  rw [hcourse, htrial]

/-- A rate limit closes the breaker, so the next request is not refused. -/
theorem not_opened_of_isRateLimit {reply : Reply} (h : reply.isRateLimit = true)
    (breaker : Breaker) (now : Rat) : (settle breaker reply).state now ≠ .opened := by
  rw [settle_of_not_fails breaker (Reply.not_fails_of_isRateLimit h)]
  exact fun hopened => by cases hopened

theorem exists_trials_of_not_opened (limited more : Nat)
    (h : (s.1.breaker request.model).state (clock transport s.2) ≠ .opened) :
    ∃ before last, (trials transport request limited more s).replies = before ++ [last] ∧
      (trials transport request limited more s).outcome = last.outcome ∧
      (∀ reply ∈ before, reply.isRateLimit = true) ∧ before.length ≤ more ∧
      (last.isRateLimit = true → before.length = more) := by
  induction more generalizing limited s with
  | zero =>
    obtain ⟨reply, hreplies, houtcome⟩ := exists_sent transport request s
    unfold trials
    rw [trial_of_not_opened h]
    exact ⟨[], reply, hreplies, houtcome, by simp, Nat.le_refl 0, fun _ => rfl⟩
  | succ more ih =>
    obtain ⟨reply, hreplies, houtcome⟩ := exists_sent transport request s
    have hbreaker := breaker_after_trial transport request s request.model
    unfold trials
    rw [trial_of_not_opened h] at hbreaker ⊢
    rw [if_pos rfl, hreplies] at hbreaker
    simp only [houtcome]
    split_ifs with hlimit
    · -- the retry finds the breaker closed by the rate limit
      have hclosed : (sent transport request s).after.1.breaker request.model
          = settle (s.1.breaker request.model) reply := hbreaker
      obtain ⟨before, last, hothers, hended, hlimits, hlength, hmost⟩ :=
        ih (limited + 1) (s := waited transport (limited + 1) (sent transport request s).after) (by
          show (Registry.breaker (sent transport request s).after.1 request.model).state _ ≠ _
          rw [hclosed]
          exact not_opened_of_isRateLimit hlimit _ _)
      refine ⟨reply :: before, last, ?_, hended, ?_, Nat.succ_le_succ hlength,
        fun hlast => congrArg (· + 1) (hmost hlast)⟩
      · rw [hothers, hreplies]
        rfl
      · rintro other (_ | ⟨_, hother⟩)
        · exact hlimit
        · exact hlimits other hother
    · exact ⟨[], reply, hreplies, houtcome, by simp, Nat.zero_le _,
        fun hlast => absurd hlast hlimit⟩

/-- **A call that is not refused** ends as the last request that it sent. The requests before that
were rate-limited, and the last one is too only if there were three. -/
theorem exists_course_of_not_opened
    (h : (s.1.breaker request.model).state (clock transport s.2) ≠ .opened) :
    ∃ before last, (course transport request s).replies = before ++ [last] ∧
      (course transport request s).outcome = last.outcome ∧
      (∀ reply ∈ before, reply.isRateLimit = true) ∧ before.length ≤ 2 ∧
      (last.isRateLimit = true → before.length = 2) :=
  exists_trials_of_not_opened 0 2 h

/-- A call is refused exactly while the breaker of its model is open. -/
theorem replies_course_eq_nil_iff : (course transport request s).replies = [] ↔
    (s.1.breaker request.model).state (clock transport s.2) = .opened := by
  constructor
  · intro hnil
    by_contra h
    obtain ⟨before, last, hreplies, -⟩ := exists_course_of_not_opened h
    rw [hnil] at hreplies
    exact absurd hreplies (by simp)
  · intro h
    obtain ⟨fault, -, -, hcourse⟩ := course_of_opened h
    rw [hcourse]

end Facts

end VmScan.Model
