import Mathlib.Tactic.SplitIfs
import VmScan.Log.Setup

/-!
# The two phases of logging

What stays true of the loggers whatever is done to them. `setup_logging` and
`cleanup_third_party_handlers` may be called any number of times and in any order, with `set_level`
between them.

* `firstPhases` — a row of steps without the phases that are done when they come.
* `Quiet` — the loggers that say too much tell warnings only.

Results:
* `done_setUp`, `done_cleanUp`: a phase is done once it is asked for.
* `run_firstPhases`: each phase takes effect once.
* `quiet_setUp`, `quiet_run`: the first phase makes the loggers quiet, and they stay so whatever
  becomes of the main logger.
-/

namespace VmScan.LogState

variable {state : LogState}

/-! ## Each phase once -/

/-- The steps without the phases that are done when they come; two phases may be done before. -/
def firstPhases : Bool → Bool → List LogStep → List LogStep
  | _, _, [] => []
  | true, cleanUpDone, .setUp _ :: steps => firstPhases true cleanUpDone steps
  | false, cleanUpDone, .setUp level :: steps => .setUp level :: firstPhases true cleanUpDone steps
  | setUpDone, true, .cleanUp :: steps => firstPhases setUpDone true steps
  | setUpDone, false, .cleanUp :: steps => .cleanUp :: firstPhases setUpDone true steps
  | setUpDone, cleanUpDone, .setLevel level :: steps =>
    .setLevel level :: firstPhases setUpDone cleanUpDone steps
  | setUpDone, cleanUpDone, .attach name :: steps =>
    .attach name :: firstPhases setUpDone cleanUpDone steps

theorem setUp_of_done (h : state.setUpDone = true) (level : String) :
    state.setUp level = (state, none) := by
  rw [setUp, if_pos h]

theorem cleanUp_of_done (h : state.cleanUpDone = true) : state.cleanUp = state := by
  rw [cleanUp, if_pos h]

/-- The first phase is done once it is asked for, also with a level that there is not. -/
theorem done_setUp (state : LogState) (level : String) :
    (state.setUp level).1.setUpDone = true ∧
      (state.setUp level).1.cleanUpDone = state.cleanUpDone := by
  unfold setUp
  split_ifs with h
  · exact ⟨h, rfl⟩
  · cases LogLevel.find? level with
    | none => exact ⟨rfl, rfl⟩
    | some level =>
      simp only [configureMain, change]
      split_ifs <;> exact ⟨rfl, rfl⟩

theorem done_setLevel (state : LogState) (level : String) :
    (state.setLevel level).1.setUpDone = state.setUpDone ∧
      (state.setLevel level).1.cleanUpDone = state.cleanUpDone := by
  unfold setLevel
  cases LogLevel.find? level <;> exact ⟨rfl, rfl⟩

theorem done_attach (state : LogState) (name : String) :
    (state.attach name).setUpDone = state.setUpDone ∧
      (state.attach name).cleanUpDone = state.cleanUpDone := by
  unfold attach
  split_ifs <;> exact ⟨rfl, rfl⟩

/-- The second phase is done once it is asked for. -/
theorem done_cleanUp (state : LogState) :
    state.cleanUp.setUpDone = state.setUpDone ∧ state.cleanUp.cleanUpDone = true := by
  unfold cleanUp
  split_ifs with h
  · exact ⟨rfl, h⟩
  · exact ⟨rfl, rfl⟩

theorem run_cons (state : LogState) (step : LogStep) (steps : List LogStep) :
    state.run (step :: steps) = (state.step step).1.run steps := rfl

/-- **Each phase takes effect once.** Whatever is done to the loggers, they end as if each phase had
been asked for the first time only. -/
theorem run_firstPhases (state : LogState) (steps : List LogStep) :
    state.run (firstPhases state.setUpDone state.cleanUpDone steps) = state.run steps := by
  induction steps generalizing state with
  | nil => rfl
  | cons step steps ih =>
    have hstep := ih (state.step step).1
    rw [run_cons, ← hstep]
    cases step with
    | setUp level =>
      obtain ⟨hdone, hclean⟩ := done_setUp state level
      simp only [LogState.step, hdone, hclean]
      cases h : state.setUpDone with
      | true => rw [firstPhases, setUp_of_done h]
      | false => rw [firstPhases, run_cons]; rfl
    | setLevel level =>
      obtain ⟨hdone, hclean⟩ := done_setLevel state level
      simp only [LogState.step, hdone, hclean, firstPhases, run_cons]
    | attach name =>
      obtain ⟨hdone, hclean⟩ := done_attach state name
      simp only [LogState.step, hdone, hclean, firstPhases, run_cons]
    | cleanUp =>
      obtain ⟨hdone, hclean⟩ := done_cleanUp state
      simp only [LogState.step, hdone, hclean]
      cases h : state.cleanUpDone with
      | true => rw [firstPhases, cleanUp_of_done h]
      | false => rw [firstPhases, run_cons]; rfl

/-! ## Levels that stay -/

/-- The loggers that say too much tell warnings only. -/
def Quiet (state : LogState) : Prop :=
  ∀ name logger, (name, logger) ∈ state.loggers → name ∈ chattyLoggers → logger.level = .warning

/-- A change that keeps levels keeps loggers quiet. -/
theorem Quiet.change (h : Quiet state) (names : List String) {f : Logger → Logger}
    (hf : ∀ logger, (f logger).level = logger.level) : Quiet (state.change names f) := by
  intro name logger hmem hchatty
  obtain ⟨⟨before, kept⟩, hkept, heq⟩ := List.mem_map.mp hmem
  obtain ⟨rfl, rfl⟩ := Prod.mk.inj heq
  have hlevel := h before kept hkept hchatty
  split_ifs
  · exact (hf kept).trans hlevel
  · exact hlevel

/-- **The first phase makes the loggers quiet**, if it is the first one and its level is known. -/
theorem quiet_setUp {level : String} (hdone : state.setUpDone = false)
    (hlevel : (LogLevel.find? level).isSome = true) : Quiet (state.setUp level).1 := by
  obtain ⟨known, hknown⟩ := Option.isSome_iff_exists.mp hlevel
  intro name logger hmem hchatty
  simp only [setUp, hdone, Bool.false_eq_true, if_false, hknown, change] at hmem
  obtain ⟨⟨before, kept⟩, -, heq⟩ := List.mem_map.mp hmem
  obtain ⟨rfl, rfl⟩ := Prod.mk.inj heq
  rw [if_pos hchatty]

/-- A first phase that is not the first, or whose level is not known, leaves the levels alone. -/
theorem Quiet.setUp (h : Quiet state) (level : String) : Quiet (state.setUp level).1 := by
  cases hdone : state.setUpDone with
  | true => rwa [setUp_of_done hdone]
  | false =>
    by_cases hlevel : (LogLevel.find? level).isSome = true
    · exact quiet_setUp hdone hlevel
    · rw [Option.not_isSome_iff_eq_none] at hlevel
      have hkept : (state.setUp level).1.loggers = state.loggers := by
        simp only [LogState.setUp, hdone, Bool.false_eq_true, if_false, hlevel]
      rwa [Quiet, hkept]

theorem Quiet.setLevel (h : Quiet state) (level : String) : Quiet (state.setLevel level).1 := by
  have hkept : (state.setLevel level).1.loggers = state.loggers := by
    unfold LogState.setLevel
    generalize LogLevel.find? level = found
    cases found <;> rfl
  rwa [Quiet, hkept]

theorem Quiet.attach (h : Quiet state) (name : String) : Quiet (state.attach name) := by
  unfold LogState.attach
  split_ifs
  · exact h
  · exact h.change [name] fun _ => rfl

theorem Quiet.cleanUp (h : Quiet state) : Quiet state.cleanUp := by
  unfold LogState.cleanUp
  split_ifs
  · exact h
  · have hspent : Quiet { state with cleanUpDone := true } := h
    exact hspent.change clientLoggers fun _ => rfl

/-- Quiet loggers stay quiet through every step. -/
theorem Quiet.step (h : Quiet state) : ∀ step, Quiet (state.step step).1
  | .setUp level => h.setUp level
  | .setLevel level => h.setLevel level
  | .attach name => h.attach name
  | .cleanUp => h.cleanUp

/-- **Quiet loggers stay quiet**, whatever is done, at every level of the main logger. -/
theorem quiet_run (h : Quiet state) (steps : List LogStep) : Quiet (state.run steps) := by
  induction steps generalizing state with
  | nil => exact h
  | cons step steps ih => exact ih (h.step step)

end VmScan.LogState
