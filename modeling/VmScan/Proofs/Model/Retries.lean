import VmScan.Proofs.Model.Outages

/-!
# Retries

A call sends its request again only behind a rate limit, and each request goes through the breaker
anew. A rate limit leaves the breaker closed, so a call that starts is never refused halfway, from
whatever the breaker remembers.

The provider answers in an arbitrary world, so the outcomes that it has for a call are read off that
world: each is the one that comes if all before it were sent and waited for.

* `onward`, `offered` — the world in which a call tries again, and the outcomes that the provider
  has for the requests of a call.
* `Tries` — requests get the first of these outcomes, all but the last of them rate limits.
* `logged` — a world in which the requests that are sent are written down with their outcomes.

Results:
* `tries_trials`: a request that is not refused is tried again exactly behind rate limits.
* `trials_logged`: writing down what is sent changes nothing.
* `call_retries_limits`: how many requests a call sends, and which of them decides.
-/

namespace VmScan.Model

variable {σ : Type}

/-- What a request comes to. -/
abbrev Outcome := Except Failure Completion

/-! ## The outcomes that a provider has -/

/-- The outcome of a request that is sent in the world, and the world behind it. -/
def answered (transport : Transport (StateM σ)) (request : Request) (w : σ) : Outcome × σ :=
  let reply := (transport.send request).run (transport.now.run w).2
  (reply.1, (transport.now.run reply.2).2)

/-- The world in which the request is sent again, behind `limited` rate limits and one more. -/
def onward (transport : Transport (StateM σ)) (request : Request) (limited : Nat) (w : σ) : σ :=
  ((transport.wait (waitAfter (limited + 1))).run (answered transport request w).2).2

/-- The outcomes of the request, sent again and again behind `limited` rate limits. -/
def offered (transport : Transport (StateM σ)) (request : Request) (limited : Nat) (w : σ) :
    Nat → Outcome
  | 0 => (answered transport request w).1
  | n + 1 => offered transport request (limited + 1) (onward transport request limited w) n

/-- The requests get the first of the outcomes, with `tried` retries, and end as the last of them
did. All before that are rate limits, and the last is one only if there are no more retries. -/
structure Tries (outcomes : Nat → Outcome) (more tried : Nat) (replies : List Reply)
    (outcome : Outcome) : Prop where
  got : replies.map (·.outcome) = (List.range (tried + 1)).map outcomes
  ends : outcome = outcomes tried
  limits : ∀ i < tried, isLimit (outcomes i) = true
  within : tried ≤ more
  exhausted : isLimit (outcomes tried) = true → tried = more

namespace Tries

variable {outcomes : Nat → Outcome} {more tried : Nat} {replies : List Reply} {outcome : Outcome}
  {first : Reply}

/-- A request that is not tried again. -/
theorem once (hfirst : first.outcome = outcomes 0)
    (hlast : isLimit (outcomes 0) = true → 0 = more) :
    Tries outcomes more 0 [first] (outcomes 0) where
  got := by
    rw [List.map_singleton, hfirst]
    rfl
  ends := rfl
  limits i hi := absurd hi (Nat.not_lt_zero i)
  within := Nat.zero_le more
  exhausted := hlast

/-- A request that is tried again behind a rate limit. -/
theorem again (hfirst : first.outcome = outcomes 0) (hlimit : isLimit (outcomes 0) = true)
    (h : Tries (fun n => outcomes (n + 1)) more tried replies outcome) :
    Tries outcomes (more + 1) (tried + 1) (first :: replies) outcome where
  got := by
    rw [List.map_cons, h.got, hfirst, List.range_succ_eq_map (n := tried + 1), List.map_cons,
      List.map_map]
    rfl
  ends := h.ends
  limits i hi := by
    cases i with
    | zero => exact hlimit
    | succ i => exact h.limits i (Nat.lt_of_succ_lt_succ hi)
  within := Nat.succ_le_succ h.within
  exhausted hlast := congrArg (· + 1) (h.exhausted hlast)

/-- As many requests are sent as there are rate limits in front, and one more, but no more than
there are attempts. -/
theorem length_eq (h : Tries outcomes more tried replies outcome) {limited : Nat}
    (hlimits : ∀ i < limited, isLimit (outcomes i) = true)
    (hother : isLimit (outcomes limited) = false) : tried + 1 = min (more + 1) (1 + limited) := by
  have hwithin := h.within
  rcases Nat.lt_trichotomy tried limited with hlt | rfl | hgt
  · have := h.exhausted (hlimits tried hlt)
    omega
  · omega
  · have := h.limits limited hgt
    rw [hother] at this
    cases this

end Tries

/-! ## Requests and retries -/

section Steps

variable {transport : Transport (StateM σ)} {request : Request} {limited more : Nat}
  {s : Registry × σ}

theorem trials_of_not_limit (h : isLimit (trial transport request s).outcome = false) :
    trials transport request limited (more + 1) s = trial transport request s := by
  simp only [trials, h, Bool.false_eq_true, if_false]

theorem trials_of_limit (h : isLimit (trial transport request s).outcome = true) :
    trials transport request limited (more + 1) s =
      let others := trials transport request (limited + 1) more
        (waited transport (limited + 1) (trial transport request s).after)
      { others with replies := (trial transport request s).replies ++ others.replies } := by
  simp only [trials, h, if_true]

/-- **A request that is not refused is tried again exactly behind rate limits**, and no retry is
refused. -/
theorem tries_trials (limited more : Nat)
    (h : (s.1.breaker request.model).state (clock transport s.2) ≠ .opened) :
    ∃ tried, Tries (offered transport request limited s.2) more tried
      (trials transport request limited more s).replies
      (trials transport request limited more s).outcome := by
  induction more generalizing limited s with
  | zero =>
    rw [trials, trial_of_not_opened h]
    exact ⟨0, .once rfl fun _ => rfl⟩
  | succ more ih =>
    have hsent := trial_of_not_opened h
    cases hlimit : isLimit (trial transport request s).outcome with
    | false =>
      rw [trials_of_not_limit hlimit, hsent]
      rw [hsent] at hlimit
      exact ⟨0, .once rfl fun hlast => absurd (hlimit.symm.trans hlast) Bool.false_ne_true⟩
    | true =>
      rw [trials_of_limit hlimit, hsent]
      rw [hsent] at hlimit
      -- the retry finds the breaker closed by the rate limit
      have hclosed : ((sent transport request s).after.1.breaker request.model).state
          (clock transport (onward transport request limited s.2)) ≠ .opened := by
        obtain ⟨reply, hreplies, hreply⟩ := exists_sent transport request s
        have hbreaker := breaker_after_trial transport request s request.model
        rw [if_pos rfl, hsent, hreplies] at hbreaker
        rw [hbreaker]
        exact not_opened_of_isRateLimit ((congrArg isLimit hreply).symm.trans hlimit) _ _
      obtain ⟨tried, htries⟩ := ih (limited + 1)
        (s := waited transport (limited + 1) (sent transport request s).after) hclosed
      exact ⟨tried + 1, htries.again rfl hlimit⟩

end Steps

/-! ## Requests that are written down -/

/-- A request that was sent, with its outcome. -/
abbrev Sent := Request × Outcome

/-- The transport in a world in which the requests that are sent are written down. -/
def logged (transport : Transport (StateM σ)) : Transport (StateM (σ × List Sent)) where
  now := fun (w, log) => ((transport.now.run w).1, (transport.now.run w).2, log)
  writeTime := transport.writeTime
  send := fun request (w, log) =>
    let reply := (transport.send request).run w
    (reply.1, reply.2, log ++ [(request, reply.1)])
  wait := fun seconds (w, log) => ((), ((transport.wait seconds).run w).2, log)

/-- The course with the requests that it sends written down behind the log. -/
def Course.log (done : Course σ) (request : Request) (log : List Sent) :
    Course (σ × List Sent) where
  replies := done.replies
  outcome := done.outcome
  after := (done.after.1, done.after.2,
    log ++ done.replies.map fun reply => (request, reply.outcome))

theorem trial_logged (transport : Transport (StateM σ)) (request : Request) (s : Registry × σ)
    (log : List Sent) :
    trial (logged transport) request (s.1, s.2, log)
      = (trial transport request s).log request log := by
  have hrefusal : refusalOf (logged transport) request (s.1, s.2, log)
      = refusalOf transport request s := rfl
  unfold trial
  rw [hrefusal]
  cases refusalOf transport request s with
  | none => rfl
  | some fault =>
    simp only [refused, Course.log, List.map_nil, List.append_nil]
    rfl

/-- **Writing down what is sent changes nothing.** -/
theorem trials_logged (transport : Transport (StateM σ)) (request : Request) (limited more : Nat)
    (s : Registry × σ) (log : List Sent) :
    trials (logged transport) request limited more (s.1, s.2, log)
      = (trials transport request limited more s).log request log := by
  induction more generalizing limited s log with
  | zero => exact trial_logged transport request s log
  | succ more ih =>
    have hfirst := trial_logged transport request s log
    have houtcome : (trial (logged transport) request (s.1, s.2, log)).outcome
        = (trial transport request s).outcome := congrArg Course.outcome hfirst
    cases hlimit : isLimit (trial transport request s).outcome with
    | false =>
      rw [trials_of_not_limit hlimit, trials_of_not_limit (houtcome ▸ hlimit), hfirst]
    | true =>
      rw [trials_of_limit hlimit, trials_of_limit (houtcome ▸ hlimit), hfirst]
      -- what was written down before the wait stays in front
      have hothers := ih (limited + 1)
        (waited transport (limited + 1) (trial transport request s).after)
        (log ++ (trial transport request s).replies.map fun reply => (request, reply.outcome))
      have hwaited : waited (logged transport) (limited + 1)
            ((trial transport request s).log request log).after
          = ((waited transport (limited + 1) (trial transport request s).after).1,
            (waited transport (limited + 1) (trial transport request s).after).2,
            log ++ (trial transport request s).replies.map fun reply => (request, reply.outcome)) :=
        rfl
      rw [hwaited, hothers]
      simp only [Course.log, List.map_append, List.append_assoc]

/-! ## Calls -/

/-- **A call is sent again exactly on rate limits.** A call that is not refused sends its request as
often as there are rate limits in front of what the provider has for it, and once more, but no more
than three times, whatever its breaker remembers. It ends as the last of these requests did, and
every request before that was rate-limited. Writing down what is sent changes nothing. -/
theorem call_retries_limits (transport : Transport (StateM σ)) (request : Request)
    (registry : Registry) (w : σ) (h : ¬ Refused transport request (registry, w)) :
    let outcomes := offered transport request 0 w
    let run := runIn (call (logged transport) request) (registry, w, [])
    runIn (call transport request) (registry, w) = (run.1, run.2.1, run.2.2.1) ∧
      ∃ sent, run.2.2.2 = (List.range sent).map (fun i => (request, outcomes i)) ∧
        (∀ limited, (∀ i < limited, isLimit (outcomes i) = true) →
          isLimit (outcomes limited) = false → sent = min 3 (1 + limited)) ∧
        ((∀ i, isLimit (outcomes i) = true) → sent = 3) ∧
        run.1 = (outcomes (sent - 1)).map (·.answer request.model) ∧
        ∀ i, i + 1 < sent → isLimit (outcomes i) = true := by
  intro outcomes run
  let done := course transport request (registry, w)
  have hplain : runIn (call transport request) (registry, w)
      = (done.outcome.map (·.answer request.model), done.after) := runIn_call transport request _
  have hrun : run = (done.outcome.map (·.answer request.model),
      done.after.1, done.after.2, done.replies.map fun reply => (request, reply.outcome)) := by
    have hlogged : course (logged transport) request (registry, w, []) = done.log request [] :=
      trials_logged transport request 0 2 (registry, w) []
    show runIn (call (logged transport) request) (registry, w, []) = _
    rw [runIn_call, hlogged]
    rfl
  obtain ⟨tried, htries⟩ : ∃ tried, Tries outcomes 2 tried done.replies done.outcome :=
    tries_trials 0 2 fun hopened => h (refused_iff.mpr hopened)
  refine ⟨by rw [hplain, hrun], tried + 1, ?_, fun limited => htries.length_eq, fun hall => ?_, ?_,
    fun i hi => htries.limits i (Nat.lt_of_succ_lt_succ hi)⟩
  · have hlog := congrArg (List.map (Prod.mk request)) htries.got
    rw [List.map_map, List.map_map] at hlog
    rw [hrun]
    exact hlog
  · exact congrArg (· + 1) (htries.exhausted (hall tried))
  · rw [hrun, htries.ends]
    rfl

/-- Four calls at time zero that fail at once. -/
def fourLate : List (Request × Scene) :=
  List.replicate 4 (ask, { outcomes := [late] })

/-- A call behind four failures spends its requests on rate limits, and a call behind a pause is
tried again once and fails. -/
theorem call_retries_limits_fourLate :
    let early := (calls scripted fourLate).registry
    let paused := (calls scripted fiveLate).registry
    let limited : Scene := { outcomes := [slowDown, slowDown, slowDown, late] }
    let probe : Scene := { time := 30, outcomes := [slowDown, late, slowDown] }
    (early.breaker ask.model).failures = 4 ∧ ¬ Refused scripted ask (early, limited) ∧
      (runIn (call (logged scripted) ask) (early, limited, [])).2.2.2
        = List.replicate 3 (ask, slowDown) ∧
      (paused.breaker ask.model).state 30 = .halfOpen ∧ ¬ Refused scripted ask (paused, probe) ∧
      (runIn (call (logged scripted) ask) (paused, probe, [])).2.2.2
        = [(ask, slowDown), (ask, late)] := by
  intro early paused limited probe
  have hearly : ¬ Refused scripted ask (early, limited) := by
    rw [refused_iff]
    decide +kernel
  have hpaused : ¬ Refused scripted ask (paused, probe) := by
    rw [refused_iff]
    decide +kernel
  obtain ⟨-, three, hthree, hmany, -⟩ := call_retries_limits scripted ask early limited hearly
  obtain ⟨-, two, htwo, hfew, -⟩ := call_retries_limits scripted ask paused probe hpaused
  rw [hmany 3 (by decide) (by decide)] at hthree
  rw [hfew 1 (by decide) (by decide)] at htwo
  exact ⟨by decide +kernel, hearly, hthree, by decide +kernel, hpaused, htwo⟩

end VmScan.Model
