import VmScan.Proofs.Model.Course

/-!
# Calls in an outage

Calls are made one after another, to any models, each in a world of its own: whatever happens to the
clock and to the provider between two calls, the breakers are all that a call finds of those before
it.

* `Past`, `calls` — what came of calls that were made one after another.
* `Refused` — a call that sends nothing, reads the clock, and ends with the fault of an open
  breaker.
* `Scene`, `scripted` — a world in which the outcomes of the requests are given.

Results:
* `breaker_calls`: the breaker of a model is the one behind the replies of that model.
* `refused_iff`: a call is refused exactly while the breaker of its model is open.
* `refused_iff_five_in_a_row`: in an outage of five failures a call is refused exactly if the last
  five came in a row; a rate limit between them starts the count again.
* `call_sent_or_refused`: a call is refused only in an outage, a refusal changes no breaker, and the
  call that is sent after a pause decides alone whether there is another.
-/

namespace VmScan.Model

variable {σ : Type}

/-! ## Calls one after another -/

/-- What came of calls that were made one after another. -/
structure Past where
  /-- The requests, each with the replies that its call got. -/
  calls : List (Request × List Reply)
  registry : Registry

/-- The replies to the requests to a model, in order. -/
def Past.repliesOf (past : Past) (model : String) : List Reply :=
  past.calls.flatMap fun (request, replies) => if request.model = model then replies else []

/-- Calls behind the given registry, each made in the world that stands beside it. -/
def callsFrom (transport : Transport (StateM σ)) : Registry → List (Request × σ) → Past
  | registry, [] => { calls := [], registry }
  | registry, (request, w) :: rest =>
    let first := course transport request (registry, w)
    let others := callsFrom transport first.after.1 rest
    { others with calls := (request, first.replies) :: others.calls }

/-- Calls made one after another where no model was met. -/
def calls (transport : Transport (StateM σ)) (made : List (Request × σ)) : Past :=
  callsFrom transport [] made

theorem breaker_callsFrom (transport : Transport (StateM σ)) (registry : Registry)
    (made : List (Request × σ)) (model : String) :
    (callsFrom transport registry made).registry.breaker model =
      ((callsFrom transport registry made).repliesOf model).foldl settle
        (registry.breaker model) := by
  induction made generalizing registry with
  | nil => rfl
  | cons first rest ih =>
    obtain ⟨request, w⟩ := first
    let others := callsFrom transport (course transport request (registry, w)).after.1 rest
    have hreplies : (callsFrom transport registry ((request, w) :: rest)).repliesOf model =
        (if request.model = model then (course transport request (registry, w)).replies else [])
          ++ others.repliesOf model := rfl
    show others.registry.breaker model = _
    rw [hreplies, List.foldl_append, ih, breaker_after_course]
    by_cases h : request.model = model
    · rw [if_pos h, if_pos h.symm]
    · rw [if_neg h, if_neg (Ne.symm h), List.foldl_nil]

/-- **The breaker of a model** is the one behind the replies of that model. -/
theorem breaker_calls (transport : Transport (StateM σ)) (made : List (Request × σ))
    (model : String) :
    (calls transport made).registry.breaker model
      = breakerAfter ((calls transport made).repliesOf model) :=
  breaker_callsFrom transport [] made model

/-! ## Refused calls -/

/-- The call sends nothing, and all it does before it ends with the fault of an open breaker is to
read the clock. -/
structure Refused (transport : Transport (StateM σ)) (request : Request) (s : Registry × σ) :
    Prop where
  sendsNothing : (course transport request s).replies = []
  ends : ∃ fault : Fault, fault.name = "CircuitBreakerError" ∧
    runIn (call transport request) s = (.error { fault }, s.1, (transport.now.run s.2).2)

/-- A call is refused exactly while the breaker of its model is open. -/
theorem refused_iff {transport : Transport (StateM σ)} {request : Request} {s : Registry × σ} :
    Refused transport request s ↔
      (s.1.breaker request.model).state (clock transport s.2) = .opened := by
  constructor
  · intro h
    exact replies_course_eq_nil_iff.mp h.sendsNothing
  · intro h
    obtain ⟨fault, hname, -, hcourse⟩ := course_of_opened h
    refine ⟨replies_course_eq_nil_iff.mpr h, fault, hname, ?_⟩
    rw [runIn_call, hcourse]
    rfl

/-- A call that is not refused ends as its last request did, and was rate-limited before that. -/
theorem exists_course_of_not_refused {transport : Transport (StateM σ)} {request : Request}
    {s : Registry × σ} (h : ¬ Refused transport request s) :
    ∃ before last, (course transport request s).replies = before ++ [last] ∧
      (course transport request s).outcome = last.outcome ∧
      ∀ reply ∈ before, reply.isRateLimit = true := by
  obtain ⟨before, last, hreplies, houtcome, hlimits, -⟩ :=
    exists_course_of_not_opened fun hopened => h (refused_iff.mpr hopened)
  exact ⟨before, last, hreplies, houtcome, hlimits⟩

/-- A call that is refused has the outcome of no request. -/
theorem Refused.outcome {transport : Transport (StateM σ)} {request : Request} {s : Registry × σ}
    (h : Refused transport request s) :
    (course transport request s).outcome.isOk = false ∧
      isLimit (course transport request s).outcome = false := by
  obtain ⟨fault, -, hlimit, hcourse⟩ := course_of_opened (refused_iff.mp h)
  rw [hcourse]
  exact ⟨rfl, hlimit⟩

/-- A call that is answered, or ends with a rate limit, leaves its model the breaker of a new
one. -/
theorem breaker_after_course_eq_new {transport : Transport (StateM σ)} {request : Request}
    {s : Registry × σ} (h : (course transport request s).outcome.isOk = true ∨
      isLimit (course transport request s).outcome = true) :
    (course transport request s).after.1.breaker request.model = {} := by
  have hsent : ¬ Refused transport request s := by
    intro hrefused
    rw [hrefused.outcome.1, hrefused.outcome.2] at h
    simp at h
  obtain ⟨before, last, hreplies, houtcome, -⟩ := exists_course_of_not_refused hsent
  rw [houtcome] at h
  have hlast : last.fails = false :=
    h.elim Reply.not_fails_of_succeeds Reply.not_fails_of_isRateLimit
  rw [breaker_after_course, if_pos rfl, hreplies, List.foldl_append]
  exact settle_of_not_fails _ hlast

section Outage

variable {transport : Transport (StateM σ)} {request : Request} {s : Registry × σ}
  {replies : List Reply}

/-- Behind these replies a call is refused exactly while their streak is long and recent. -/
theorem refused_iff_streak (hbreaker : s.1.breaker request.model = breakerAfter replies) :
    Refused transport request s ↔ 5 ≤ (streak replies).length ∧
      ∃ latest, (streak replies).getLast? = some latest ∧
        clock transport s.2 < latest.ended + 30 := by
  rw [refused_iff, hbreaker, breakerAfter_opened_iff]

/-- A call is refused only in an outage of five failures whose last is recent. -/
theorem Refused.outage (h : Refused transport request s)
    (hbreaker : s.1.breaker request.model = breakerAfter replies) :
    5 ≤ (outage replies).length ∧ ∃ latest, (outage replies).getLast? = some latest ∧
      clock transport s.2 < latest.ended + 30 := by
  obtain ⟨hlong, latest, hlatest, hrecent⟩ := (refused_iff_streak hbreaker).mp h
  refine ⟨hlong.trans (streak_suffix_outage replies).length_le, latest, ?_, hrecent⟩
  rw [← getLast?_streak hlong, hlatest]

/-- A breaker whose pause is over was opened by a streak of five. -/
theorem five_le_streak_of_halfOpen {now : Rat}
    (h : (breakerAfter replies).state now = .halfOpen) : 5 ≤ (streak replies).length := by
  by_contra hshort
  have hpaused := pausedAt_breakerAfter replies
  rw [if_neg hshort] at hpaused
  unfold Breaker.state at h
  rw [hpaused] at h
  cases h

/-- **The call behind a pause.** Where it fails, the next call is refused for thirty seconds more if
the failure came at once. Behind a rate limit it is the first failure of a new streak. -/
theorem refused_again_iff (hbreaker : s.1.breaker request.model = breakerAfter replies)
    (hpause : (s.1.breaker request.model).state (clock transport s.2) = .halfOpen)
    {last : Reply} (hlast : (course transport request s).replies.getLast? = some last)
    (hfails : last.fails = true) {again : Request} (hagain : again.model = request.model) (w : σ) :
    Refused transport again ((course transport request s).after.1, w) ↔
      (course transport request s).replies = [last] ∧ clock transport w < last.ended + 30 := by
  have hsent : ¬ Refused transport request s := by
    intro hrefused
    rw [hrefused.sendsNothing] at hlast
    cases hlast
  obtain ⟨before, last', hreplies, -, hlimits⟩ := exists_course_of_not_refused hsent
  obtain rfl : last' = last := by
    rw [hreplies, List.getLast?_concat] at hlast
    exact Option.some.inj hlast
  have hafter : (course transport request s).after.1.breaker again.model
      = breakerAfter (replies ++ before ++ [last']) := by
    rw [hagain, breaker_after_course, if_pos rfl, hreplies, hbreaker, breakerAfter, breakerAfter,
      ← List.foldl_append, List.append_assoc]
  rw [refused_iff_streak (s := (_, w)) hafter, streak_concat_of_fails _ hfails,
    List.getLast?_concat, List.length_append, List.length_singleton, hreplies]
  -- a streak goes on from before the call only if the call was not rate-limited
  rcases List.eq_nil_or_concat before with rfl | ⟨others, limit, rfl⟩
  · rw [hbreaker] at hpause
    have hlong := five_le_streak_of_halfOpen hpause
    rw [List.append_nil]
    simp only [Option.some.injEq, exists_eq_left', List.nil_append, true_and, and_iff_right_iff_imp]
    omega
  · have hlimit : limit.fails = false :=
      Reply.not_fails_of_isRateLimit (hlimits limit (by simp))
    have hmore : others ++ [limit] ++ [last'] ≠ [last'] := by
      intro h
      have := congrArg List.length h
      simp at this
    rw [List.concat_eq_append, ← List.append_assoc, streak_concat_of_not_fails _ hlimit]
    exact iff_of_false (by simp) fun h => hmore h.1

end Outage

/-! ## A provider that follows a script -/

/-- The clock of a world, and the outcomes of the requests that will be sent. -/
structure Scene where
  time : Rat := 0
  outcomes : List (Except Failure Completion) := []

/-- A failure to answer in time. -/
def late : Except Failure Completion :=
  .error { fault := { name := "TimeoutError", text := "late" } }

/-- A rate limit. -/
def slowDown : Except Failure Completion :=
  .error { fault := { name := "RateLimitError", text := "slow down", isRateLimit := true } }

/-- The clock stands still during a call, and the outcomes come in order. -/
def scripted : Transport (StateM Scene) where
  now := fun scene => (scene.time, scene)
  writeTime := fun _ => ""
  send := fun _ scene =>
    (scene.outcomes.headD late, { scene with outcomes := scene.outcomes.tail })
  wait := fun _ scene => ((), scene)

/-- A request to a model. -/
def ask : Request where
  model := "m"
  messages := []
  timeout := 60

/-- Five calls at time zero that fail at once. -/
def fiveLate : List (Request × Scene) :=
  List.replicate 5 (ask, { outcomes := [late] })

/-- Five calls at time zero that fail, the last of them behind a rate limit. -/
def fiveLateOneLimited : List (Request × Scene) :=
  List.replicate 4 (ask, { outcomes := [late] }) ++ [(ask, { outcomes := [slowDown, late] })]

/-! ## Rate limits in an outage -/

/-- **Five failures in a row.** While the last failure since the last success is less than thirty
seconds ago, a call is refused exactly if five failures came in a row at the end, however many came
before: rate limits are not kept off the breaker. A call that ends with one leaves its model the
breaker of a new one, as a success does. -/
theorem refused_iff_five_in_a_row (transport : Transport (StateM σ)) (made : List (Request × σ))
    (request : Request) (w : σ) (latest : Reply)
    (hlatest : (outage ((calls transport made).repliesOf request.model)).getLast? = some latest)
    (hrecent : clock transport w < latest.ended + 30) :
    let past := calls transport made
    let done := course transport request (past.registry, w)
    (Refused transport request (past.registry, w) ↔
        5 ≤ (streak (past.repliesOf request.model)).length) ∧
      (isLimit done.outcome = true → done.after.1.breaker request.model = {}) := by
  intro past done
  refine ⟨?_, fun hlimit => breaker_after_course_eq_new (Or.inr hlimit)⟩
  rw [refused_iff_streak (breaker_calls transport made request.model)]
  refine ⟨fun h => h.1, fun hlong => ⟨hlong, latest, ?_, hrecent⟩⟩
  rw [getLast?_streak hlong, hlatest]

/-- Behind five calls that failed at once, the next one is refused. -/
theorem refused_iff_five_in_a_row_fiveLate :
    (outage ((calls scripted fiveLate).repliesOf ask.model)).getLast?
        = some { outcome := late, ended := 0 } ∧
      Refused scripted ask ((calls scripted fiveLate).registry, { time := 29 }) := by
  have hlatest : (outage ((calls scripted fiveLate).repliesOf ask.model)).getLast?
      = some { outcome := late, ended := 0 } := rfl
  have hrow : 5 ≤ (streak ((calls scripted fiveLate).repliesOf ask.model)).length := by decide
  exact ⟨hlatest, (refused_iff_five_in_a_row scripted fiveLate ask { time := 29 } _ hlatest
    (by decide +kernel)).1.mpr hrow⟩

/-- Five failures of which the last came behind a rate limit are an outage in which the next call
is sent. -/
theorem not_refused_fiveLateOneLimited :
    let past := calls scripted fiveLateOneLimited
    5 ≤ (outage (past.repliesOf ask.model)).length ∧
      (outage (past.repliesOf ask.model)).getLast? = some { outcome := late, ended := 0 } ∧
      clock scripted { time := 0 } < 0 + 30 ∧
      ¬ Refused scripted ask (past.registry, { time := 0 }) := by
  refine ⟨by decide, rfl, by decide +kernel, ?_⟩
  rw [refused_iff]
  decide +kernel

/-! ## Refusals and pauses -/

/-- **A call is refused only in an outage.** A call ends as its last request did, or it is refused,
and then at least five failures came since the last success, the last of them less than thirty
seconds ago, and no breaker is changed. Once thirty seconds have passed a call is sent. An answer
leaves its model the breaker of a new one. A failure of the call behind a pause is a reason to
refuse for thirty seconds more exactly if no rate limit came before it in that call. -/
theorem call_sent_or_refused (transport : Transport (StateM σ)) (made : List (Request × σ))
    (request : Request) (w : σ) :
    let past := calls transport made
    let replies := past.repliesOf request.model
    let done := course transport request (past.registry, w)
    runIn (call transport request) (past.registry, w)
        = (done.outcome.map (·.answer request.model), done.after) ∧
      ((∃ last, done.replies.getLast? = some last ∧ done.outcome = last.outcome) ∨
        (Refused transport request (past.registry, w) ∧ done.after.1 = past.registry ∧
          5 ≤ (outage replies).length ∧
          ∃ latest, (outage replies).getLast? = some latest ∧
            clock transport w < latest.ended + 30)) ∧
      ((∀ latest, (outage replies).getLast? = some latest →
          latest.ended + 30 ≤ clock transport w) → done.replies ≠ []) ∧
      (done.outcome.isOk = true → done.after.1.breaker request.model = {}) ∧
      ((past.registry.breaker request.model).state (clock transport w) = .halfOpen →
        ∀ last, done.replies.getLast? = some last → last.fails = true →
          ∀ (again : Request) (w' : σ), again.model = request.model →
            (Refused transport again (done.after.1, w') ↔
              done.replies = [last] ∧ clock transport w' < last.ended + 30)) := by
  intro past replies done
  have hbreaker : past.registry.breaker request.model = breakerAfter replies :=
    breaker_calls transport made request.model
  refine ⟨runIn_call transport request _, ?_, ?_, fun hok => ?_, ?_⟩
  · by_cases h : Refused transport request (past.registry, w)
    · obtain ⟨fault, -, -, hcourse⟩ := course_of_opened (refused_iff.mp h)
      exact Or.inr ⟨h, congrArg (·.after.1) hcourse, h.outage hbreaker⟩
    · obtain ⟨before, last, hreplies, houtcome, -⟩ := exists_course_of_not_refused h
      exact Or.inl ⟨last, by rw [hreplies, List.getLast?_concat], houtcome⟩
  · intro hover hnil
    have hrefused : Refused transport request (past.registry, w) :=
      refused_iff.mpr (replies_course_eq_nil_iff.mp hnil)
    obtain ⟨-, latest, hlatest, hrecent⟩ := hrefused.outage hbreaker
    exact absurd (hover latest hlatest) (not_le.mpr hrecent)
  · exact breaker_after_course_eq_new (Or.inl hok)
  · exact fun hpause last hlast hfails again w' hagain =>
      refused_again_iff hbreaker hpause hlast hfails hagain w'

/-- A call behind a pause that fails at once is a reason to refuse for thirty seconds more. -/
theorem call_sent_or_refused_lateProbe :
    let past := calls scripted fiveLate
    let probe := course scripted ask (past.registry, { time := 30, outcomes := [late] })
    (past.registry.breaker ask.model).state 30 = .halfOpen ∧
      probe.replies = [{ outcome := late, ended := 30 }] ∧
      Refused scripted ask (probe.after.1, { time := 59 }) ∧
      ¬ Refused scripted ask (probe.after.1, { time := 60 }) := by
  intro past probe
  have hpause : (past.registry.breaker ask.model).state 30 = .halfOpen := by decide +kernel
  have hreplies : probe.replies = [{ outcome := late, ended := 30 }] := by decide +kernel
  have hagain := fun later : Scene =>
    (call_sent_or_refused scripted fiveLate ask { time := 30, outcomes := [late] }).2.2.2.2 hpause
      { outcome := late, ended := 30 } (congrArg List.getLast? hreplies) rfl ask later rfl
  refine ⟨hpause, hreplies, (hagain { time := 59 }).mpr ⟨hreplies, by decide +kernel⟩, fun h => ?_⟩
  exact absurd ((hagain { time := 60 }).mp h).2 (by decide +kernel)

/-- A call behind a pause that is rate-limited and then fails is no reason to refuse the next. -/
theorem not_refused_limitedProbe :
    let past := calls scripted fiveLate
    let probe := course scripted ask (past.registry, { time := 30, outcomes := [slowDown, late] })
    (past.registry.breaker ask.model).state 30 = .halfOpen ∧
      probe.replies.getLast? = some { outcome := late, ended := 30 } ∧ probe.outcome = late ∧
      ¬ Refused scripted ask (probe.after.1, { time := 30 }) := by
  refine ⟨by decide +kernel, by decide +kernel, by decide +kernel, ?_⟩
  rw [refused_iff]
  decide +kernel

end VmScan.Model
