import VmScan.Model.Registry
import VmScan.Model.Request

/-!
# Calling a model

A request goes through the breaker of its model. Only a rate limit is tried again, after a pause,
and at most `maxAttempts` requests are sent; every other outcome ends the call.

* `Transport` — what a call needs from outside: a clock, a way to send a request, a way to wait.
* `attempt` — one request, unless the breaker refuses it.
* `call` — a request with its retries (`guarded_llm_call`).
-/

namespace VmScan

/-- What a model call needs from outside. -/
structure Transport (m : Type → Type) where
  /-- The time in seconds. -/
  now : m Rat
  /-- How a time is written. -/
  writeTime : Rat → String
  /-- Sends one request. -/
  send : Request → m (Except Failure Completion)
  /-- Waits for some seconds. -/
  wait : Nat → m Unit

namespace Model

/-- The greatest number of requests of one call. -/
def maxAttempts : Nat := 3

/-- The first wait in seconds. -/
def firstWait : Nat := 2

/-- The longest wait in seconds. -/
def longestWait : Nat := 30

/-- The seconds to wait after the given number of rate limits; each wait is twice the one
before. -/
def waitAfter (limited : Nat) : Nat :=
  min longestWait (firstWait * Nat.pow 2 (limited - 1))

variable {m : Type → Type} [Monad m]

/-- Sends the request once, unless the breaker of its model is open. -/
def attempt (transport : Transport m) (request : Request) :
    StateT Registry m (Except Failure Completion) := do
  let now ← transport.now
  let registry := (← get).enter request.model
  set registry
  match (registry.breaker request.model).refusal? request.model now transport.writeTime with
  | some fault => return .error { fault }
  | none =>
    let outcome ← transport.send request
    let ended ← transport.now
    modify (·.leave request.model ended outcome)
    return outcome

/-- Sends the request, with at most `more` retries behind `limited` rate limits. -/
def attempts (transport : Transport m) (request : Request) (limited : Nat) :
    Nat → StateT Registry m (Except Failure Completion)
  | 0 => attempt transport request
  | more + 1 => do
    match ← attempt transport request with
    | .ok completion => return .ok completion
    | .error failure =>
      if failure.fault.isRateLimit then
        transport.wait (waitAfter (limited + 1))
        attempts transport request (limited + 1) more
      else return .error failure

/-- The answer to the request, after retries where the provider asks to slow down. -/
def call (transport : Transport m) (request : Request) :
    StateT Registry m (Except Failure Answer) := do
  match ← attempts transport request 0 (maxAttempts - 1) with
  | .ok completion => return .ok (completion.answer request.model)
  | .error failure => return .error failure

end Model

end VmScan
