import VmScan.Failure.Basic

/-!
# Circuit breakers

A breaker counts the failures of one model in a row and keeps requests away from it once there
were too many (`CircuitBreaker`).

* `Breaker.succeed`, `Breaker.fail` — a request ended well, or with a fault at some time. From
  the fifth failure on, every failure starts a pause.
* `Breaker.state` — closed, open during the pause, half open after it. Only a success closes it.
* `Breaker.openMessage` — what a refused request reads as.
-/

namespace VmScan

/-- What a breaker remembers. -/
structure Breaker where
  /-- The failures since the last success. -/
  failures : Nat := 0
  /-- When the last pause started, in seconds. -/
  pausedAt : Option Rat := none
  lastFault : Option Fault := none
  deriving DecidableEq, Repr

namespace Breaker

/-- The number of failures from which on a pause starts. -/
def failureLimit : Nat := 5

/-- The length of a pause in seconds. -/
def pauseSeconds : Rat := 30

/-- The breaker after a success. -/
def succeed (_breaker : Breaker) : Breaker := {}

/-- The breaker after a fault at the given time. -/
def fail (breaker : Breaker) (now : Rat) (fault : Fault) : Breaker where
  failures := breaker.failures + 1
  pausedAt := if failureLimit ≤ breaker.failures + 1 then some now else breaker.pausedAt
  lastFault := some fault

/-- The seconds left of a pause that started at the given time, rounded away from zero. -/
def secondsLeft (pausedAt now : Rat) : Int :=
  let left := pausedAt + pauseSeconds - now
  if 0 < left then left.ceil else left.floor

/-- The states of a breaker. -/
inductive State where
  | closed
  | opened
  | halfOpen
  deriving DecidableEq, Repr

/-- The name of a state. -/
def State.label : State → String
  | .closed => "closed"
  | .opened => "open"
  | .halfOpen => "half_open"

/-- The state at the given time. -/
def state (breaker : Breaker) (now : Rat) : State :=
  match breaker.pausedAt with
  | none => .closed
  | some pausedAt => if secondsLeft pausedAt now ≤ 0 then .halfOpen else .opened

/-- What a request to the model reads as while the breaker is open; `pauseEnd` is the time at which
the pause ends. -/
def openMessage (breaker : Breaker) (model : String) (seconds : Int) (pauseEnd : String) : String :=
  let lastFault := (breaker.lastFault.map (·.shown)).getD "None"
  s!"Circuit \"llm_{model}\" OPEN until {pauseEnd} ({breaker.failures} failures, {seconds} sec "
    ++ s!"remaining) (last_failure: {lastFault})"

/-- The refusal of a request to the model at the given time, if the breaker is open. -/
def refusal? (breaker : Breaker) (model : String) (now : Rat) (writeTime : Rat → String) :
    Option Fault :=
  match breaker.pausedAt with
  | none => none
  | some pausedAt =>
    let seconds := secondsLeft pausedAt now
    if seconds ≤ 0 then none
    else some {
      name := "CircuitBreakerError"
      text := breaker.openMessage model seconds (writeTime (now + seconds))
      signals := [.circuitOpen] }

theorem refusal?_isSome_iff (breaker : Breaker) (model : String) (now : Rat)
    (writeTime : Rat → String) :
    (breaker.refusal? model now writeTime).isSome ↔ breaker.state now = .opened := by
  unfold refusal? state
  cases breaker.pausedAt with
  | none => simp
  | some pausedAt => simp only; split <;> simp

end Breaker

end VmScan
