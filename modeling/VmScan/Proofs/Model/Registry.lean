import VmScan.Model.Registry

/-!
# Breakers, one model at a time

A registry is read through the entries of its models (`_get_breaker`). What a request to one model
does to the registry is a change of that model's entry, and no other entry takes part in it.

* `Registry.kept?` — the breaker of a model, if the model was met.

Results:
* `Registry.kept?_enter`, `Registry.kept?_leave`: what the start and the end of a request do to
  an entry.
* `Registry.enter_of_kept?`: where a model was met, the start of a request to it changes nothing.
-/

namespace VmScan.Registry

/-- The breaker of the model, if the model was met. -/
def kept? (registry : Registry) (model : String) : Option Breaker :=
  (registry.find? fun (other, _) => other = model).map (·.2)

theorem breaker_eq_getD (registry : Registry) (model : String) :
    registry.breaker model = (registry.kept? model).getD {} := rfl

theorem kept?_cons (first : String × Breaker) (rest : Registry) (model : String) :
    kept? (first :: rest) model = if first.1 = model then some first.2 else rest.kept? model := by
  unfold kept?
  by_cases h : first.1 = model <;> simp [h]

/-- A change of the breaker of a model is one of its entry. -/
theorem kept?_modify (change : Breaker → Breaker) (registry : Registry) (model other : String) :
    (registry.modify change model).kept? other =
      if other = model then some (change (registry.breaker model)) else registry.kept? other := by
  induction registry with
  | nil => by_cases h : model = other <;> simp [modify, breaker, kept?, h, eq_comm]
  | cons first rest ih =>
    by_cases hfirst : first.1 = model
    · by_cases hother : other = model
      · simp [modify, kept?_cons, breaker_eq_getD, hfirst, hother]
      · simp [modify, kept?_cons, hfirst, hother, Ne.symm hother]
    · simp only [modify, hfirst, if_false, kept?_cons, ih, breaker_eq_getD]
      by_cases hother : other = model
      · rw [hother, if_neg hfirst, if_pos rfl, if_pos rfl]
      · rw [if_neg hother, if_neg hother]

/-- Where the model was met, a change that changes nothing leaves the registry as it is. -/
theorem modify_id {registry : Registry} {model : String} (h : registry.kept? model ≠ none) :
    registry.modify id model = registry := by
  induction registry with
  | nil => exact absurd rfl h
  | cons first rest ih =>
    rw [kept?_cons] at h
    by_cases hfirst : first.1 = model
    · subst hfirst
      simp [modify]
    · rw [if_neg hfirst] at h
      simp [modify, hfirst, ih h]

/-- The start of a request makes sure that its model is met. -/
theorem kept?_enter (registry : Registry) (model other : String) :
    (registry.enter model).kept? other =
      if other = model then some (registry.breaker model) else registry.kept? other :=
  kept?_modify id registry model other

theorem breaker_enter (registry : Registry) (model other : String) :
    (registry.enter model).breaker other = registry.breaker other := by
  rw [enter, breaker_modify]
  split <;> rfl

theorem enter_of_kept? {registry : Registry} {model : String}
    (h : registry.kept? model ≠ none) : registry.enter model = registry :=
  modify_id h

/-- The end of a request is recorded in the entry of its model. -/
theorem kept?_leave {α : Type} (registry : Registry) (model other : String) (now : Rat)
    (outcome : Except Failure α) :
    (registry.leave model now outcome).kept? other =
      if other = model then some (settled now outcome (registry.breaker model))
      else registry.kept? other :=
  kept?_modify _ registry model other

theorem breaker_leave {α : Type} (registry : Registry) (model other : String) (now : Rat)
    (outcome : Except Failure α) :
    (registry.leave model now outcome).breaker other =
      if other = model then settled now outcome (registry.breaker other)
      else registry.breaker other :=
  breaker_modify _ registry model other

/-- A breaker that is not one of a new model has an entry. -/
theorem kept?_ne_none_of_opened {registry : Registry} {model : String} {now : Rat}
    (h : (registry.breaker model).state now = .opened) : registry.kept? model ≠ none := by
  intro hnone
  rw [breaker_eq_getD, hnone] at h
  cases h

end VmScan.Registry
