import Mathlib.Data.List.DropRight
import Mathlib.Tactic.Linarith
import VmScan.Model.Call

/-!
# Breakers by replies

What a breaker remembers is decided by the replies to the requests of its model, in the order in
which they came. Time enters only through the moments at which replies came, and no clock is
assumed to run forward.

* `Reply` — how a request ended, and when: a success, a rate limit, or a failure.
* `breakerAfter` — the breaker behind a row of replies.
* `streak` — the failures at the end of a row, with nothing else between them.
* `outage` — the failures behind the last success of a row, whatever else stands between them.

Results:
* `state_eq_opened_iff`: a breaker is open for less than thirty seconds.
* `failures_breakerAfter`, `pausedAt_breakerAfter`: a breaker knows the streak and nothing else.
* `breakerAfter_opened_iff`: it is open exactly while the streak is long and its end is recent.
* `streak_suffix_outage`: the streak is the end of the outage.
-/

namespace VmScan

/-! ## States of a breaker -/

namespace Breaker

/-- Seconds are left of a pause until its end, however they are rounded. -/
theorem secondsLeft_nonpos_iff (pausedAt now : Rat) :
    secondsLeft pausedAt now ≤ 0 ↔ pausedAt + 30 ≤ now := by
  unfold secondsLeft pauseSeconds
  simp only
  split_ifs with h
  · have hpos : 0 < (pausedAt + 30 - now).ceil := Rat.lt_ceil_iff.mpr (by exact_mod_cast h)
    constructor <;> intro _ <;> [omega; linarith]
  · have hneg : (pausedAt + 30 - now).floor < 1 := Rat.floor_lt_iff.mpr (by push_cast; linarith)
    constructor <;> intro _ <;> [linarith; omega]

/-- A breaker is open for less than thirty seconds. -/
theorem state_eq_opened_iff (breaker : Breaker) (now : Rat) :
    breaker.state now = .opened ↔
      ∃ pausedAt, breaker.pausedAt = some pausedAt ∧ now < pausedAt + 30 := by
  unfold state
  cases breaker.pausedAt with
  | none => simp
  | some pausedAt =>
    simp only [Option.some.injEq, exists_eq_left', ← not_le, ← secondsLeft_nonpos_iff]
    split_ifs with h <;> simp [h]

/-- What a refusal reads as. -/
theorem name_of_refusal? {breaker : Breaker} {model : String} {now : Rat}
    {writeTime : Rat → String} {fault : Fault}
    (h : breaker.refusal? model now writeTime = some fault) :
    fault.name = "CircuitBreakerError" ∧ fault.isRateLimit = false := by
  unfold refusal? at h
  split at h
  · cases h
  · simp only at h
    split_ifs at h
    obtain rfl := Option.some.inj h
    exact ⟨rfl, rfl⟩

end Breaker

namespace Model

/-! ## Replies -/

/-- Whether the outcome is that the provider asks to slow down. -/
def isLimit {α : Type} : Except Failure α → Bool
  | .ok _ => false
  | .error failure => failure.fault.isRateLimit

/-- How a request ended, and when. -/
structure Reply where
  outcome : Except Failure Completion
  /-- The time at which it ended, in seconds. -/
  ended : Rat
  deriving DecidableEq

namespace Reply

/-- Whether the request was answered. -/
def succeeds (reply : Reply) : Bool :=
  reply.outcome.isOk

/-- Whether the provider asked to slow down. -/
def isRateLimit (reply : Reply) : Bool :=
  isLimit reply.outcome

/-- Whether the request failed, other than by a rate limit. -/
def fails (reply : Reply) : Bool :=
  !reply.succeeds && !reply.isRateLimit

theorem not_succeeds_of_fails {reply : Reply} (h : reply.fails = true) :
    reply.succeeds = false := by
  simp only [fails, Bool.and_eq_true, Bool.not_eq_true'] at h
  exact h.1

theorem not_fails_of_succeeds {reply : Reply} (h : reply.succeeds = true) :
    reply.fails = false := by
  simp [fails, h]

theorem not_fails_of_isRateLimit {reply : Reply} (h : reply.isRateLimit = true) :
    reply.fails = false := by
  simp [fails, h]

end Reply

/-- The breaker once the reply has come. -/
def settle (breaker : Breaker) (reply : Reply) : Breaker :=
  Registry.settled reply.ended reply.outcome breaker

/-- The breaker behind a row of replies. -/
def breakerAfter (replies : List Reply) : Breaker :=
  replies.foldl settle {}

/-- A failure is counted. -/
theorem exists_settle_of_fails {reply : Reply} (breaker : Breaker) (h : reply.fails = true) :
    ∃ fault, settle breaker reply = breaker.fail reply.ended fault := by
  obtain ⟨failure | completion, ended⟩ := reply
  · simp only [Reply.fails, Reply.isRateLimit, isLimit, Bool.and_eq_true, Bool.not_eq_true'] at h
    refine ⟨failure.fault, ?_⟩
    rw [settle, Registry.settled, h.2, if_neg Bool.false_ne_true]
  · cases h

/-- Everything else makes the breaker one that has seen no request. -/
theorem settle_of_not_fails {reply : Reply} (breaker : Breaker) (h : reply.fails = false) :
    settle breaker reply = {} := by
  obtain ⟨failure | completion, ended⟩ := reply
  · have hlimit : failure.fault.isRateLimit = true := by
      simpa [Reply.fails, Reply.succeeds, Reply.isRateLimit, isLimit, Except.isOk, Except.toBool]
        using h
    rw [settle, Registry.settled, if_pos hlimit]
    rfl
  · rfl

theorem breakerAfter_concat (replies : List Reply) (reply : Reply) :
    breakerAfter (replies ++ [reply]) = settle (breakerAfter replies) reply := by
  rw [breakerAfter, List.foldl_append]
  rfl

/-! ## Streaks -/

/-- The failures at the end of the row, with nothing else between them. -/
def streak (replies : List Reply) : List Reply :=
  replies.rtakeWhile (·.fails)

theorem streak_concat_of_fails {reply : Reply} (replies : List Reply) (h : reply.fails = true) :
    streak (replies ++ [reply]) = streak replies ++ [reply] :=
  List.rtakeWhile_concat_pos _ _ _ h

theorem streak_concat_of_not_fails {reply : Reply} (replies : List Reply)
    (h : reply.fails = false) : streak (replies ++ [reply]) = [] :=
  List.rtakeWhile_concat_neg _ _ _ (by simp [h])

/-- A breaker counts the streak. -/
theorem failures_breakerAfter (replies : List Reply) :
    (breakerAfter replies).failures = (streak replies).length := by
  induction replies using List.reverseRecOn with
  | nil => rfl
  | append_singleton replies reply ih =>
    rw [breakerAfter_concat]
    cases h : reply.fails with
    | true =>
      obtain ⟨fault, hsettle⟩ := exists_settle_of_fails (breakerAfter replies) h
      rw [hsettle, streak_concat_of_fails _ h, List.length_append, ← ih]
      rfl
    | false =>
      rw [settle_of_not_fails _ h, streak_concat_of_not_fails _ h]
      rfl

/-- A long streak is a pause, which started when its last failure came. -/
theorem pausedAt_breakerAfter (replies : List Reply) :
    (breakerAfter replies).pausedAt =
      if 5 ≤ (streak replies).length then (streak replies).getLast?.map (·.ended) else none := by
  induction replies using List.reverseRecOn with
  | nil => rfl
  | append_singleton replies reply ih =>
    rw [breakerAfter_concat]
    cases h : reply.fails with
    | true =>
      obtain ⟨fault, hsettle⟩ := exists_settle_of_fails (breakerAfter replies) h
      have hpaused : (settle (breakerAfter replies) reply).pausedAt =
          if 5 ≤ (streak replies).length + 1 then some reply.ended
          else (breakerAfter replies).pausedAt := by
        rw [hsettle, ← failures_breakerAfter]
        rfl
      rw [hpaused, streak_concat_of_fails _ h, List.length_append, List.length_singleton,
        List.getLast?_concat, Option.map_some]
      -- a streak that is short with one failure more was short before
      split_ifs with hlong
      · rfl
      · rw [ih, if_neg (by omega)]
    | false =>
      rw [settle_of_not_fails _ h, streak_concat_of_not_fails _ h]
      rfl

/-- **The breaker behind a row of replies** is open exactly while the streak is long and its last
failure is less than thirty seconds ago. -/
theorem breakerAfter_opened_iff (replies : List Reply) (now : Rat) :
    (breakerAfter replies).state now = .opened ↔
      5 ≤ (streak replies).length ∧
        ∃ latest, (streak replies).getLast? = some latest ∧ now < latest.ended + 30 := by
  rw [Breaker.state_eq_opened_iff, pausedAt_breakerAfter]
  split_ifs with hlong
  · simp [hlong, Option.map_eq_some_iff]
  · simp [hlong]

/-! ## Outages -/

/-- The failures behind the last success of the row, whatever else stands between them. -/
def outage (replies : List Reply) : List Reply :=
  (replies.rtakeWhile fun reply => !reply.succeeds).filter (·.fails)

theorem outage_concat_of_fails {reply : Reply} (replies : List Reply) (h : reply.fails = true) :
    outage (replies ++ [reply]) = outage replies ++ [reply] := by
  rw [outage, List.rtakeWhile_concat_pos _ _ _ (by simp [Reply.not_succeeds_of_fails h]),
    List.filter_append, List.filter_singleton, h]
  rfl

/-- The streak is the end of the outage: a streak is cut by rate limits, an outage is not. -/
theorem streak_suffix_outage (replies : List Reply) : streak replies <:+ outage replies := by
  induction replies using List.reverseRecOn with
  | nil => exact List.suffix_rfl
  | append_singleton replies reply ih =>
    cases h : reply.fails with
    | true =>
      rw [streak_concat_of_fails _ h, outage_concat_of_fails _ h]
      exact (List.suffix_append_self_iff).mpr ih
    | false =>
      rw [streak_concat_of_not_fails _ h]
      exact List.nil_suffix

/-- A long streak ends as the outage does. -/
theorem getLast?_streak {replies : List Reply} (h : 5 ≤ (streak replies).length) :
    (streak replies).getLast? = (outage replies).getLast? := by
  have hsuffix := streak_suffix_outage replies
  have hstreak : streak replies ≠ [] := List.length_pos_iff.mp (by omega)
  have houtage : outage replies ≠ [] := fun hnil => hstreak (List.suffix_nil.mp (hnil ▸ hsuffix))
  rw [List.getLast?_eq_some_getLast hstreak, List.getLast?_eq_some_getLast houtage,
    hsuffix.getLast hstreak]

end Model

end VmScan
