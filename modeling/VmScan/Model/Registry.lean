import VmScan.Model.Breaker

/-!
# The breakers of all models

* `Registry` — the breakers in the order in which their models were first met.
* `Registry.breaker` — the breaker of a model (`_get_breaker`); a new model has one that is closed.
* `Registry.enter` — a request to a model is about to start.
* `Registry.leave` — a request to a model has ended. A rate limit counts as a success
  (`_is_non_rate_limit_error`).
-/

namespace VmScan

/-- The breakers by model, in the order in which the models were first met. -/
abbrev Registry := List (String × Breaker)

namespace Registry

/-- The breaker of the model. -/
def breaker (registry : Registry) (model : String) : Breaker :=
  ((registry.find? fun (other, _) => other = model).map (·.2)).getD {}

/-- Changes the breaker of the model, which is added if it is new. -/
def modify (change : Breaker → Breaker) (model : String) : Registry → Registry
  | [] => [(model, change {})]
  | (other, breaker) :: rest =>
    if other = model then (other, change breaker) :: rest
    else (other, breaker) :: modify change model rest

/-- The registry when a request to the model is about to start. -/
def enter (registry : Registry) (model : String) : Registry :=
  modify id model registry

/-- The breaker after a request that ended at the given time. -/
def settled {α : Type} (now : Rat) (outcome : Except Failure α) (breaker : Breaker) : Breaker :=
  match outcome with
  | .ok _ => breaker.succeed
  | .error failure =>
    if failure.fault.isRateLimit then breaker.succeed else breaker.fail now failure.fault

/-- The registry after a request to the model that ended at the given time. -/
def leave {α : Type} (registry : Registry) (model : String) (now : Rat)
    (outcome : Except Failure α) : Registry :=
  modify (settled now outcome) model registry

theorem breaker_modify (change : Breaker → Breaker) (registry : Registry) (model other : String) :
    (registry.modify change model).breaker other =
      if other = model then change (registry.breaker other) else registry.breaker other := by
  induction registry with
  | nil => by_cases h : model = other <;> simp [modify, breaker, h, eq_comm]
  | cons entry rest ih =>
    by_cases h : entry.1 = model <;> by_cases h' : entry.1 = other <;>
      simp_all [modify, breaker, eq_comm]

end Registry

end VmScan
