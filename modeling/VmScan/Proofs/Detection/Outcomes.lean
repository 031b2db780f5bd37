import Mathlib.Data.List.Basic
import VmScan.Detection.Batches

/-!
# What becomes of batches, by their replies

The outcomes of batches stated from the replies alone: which results and which messages a row of
replies gives, and where each reply ends up.

* `parsed?`, `failureText?` — a reply gives a result or the text of a failure: the one it was raised
  with, or the refusal of a text that is no result.
* `outcomesOf` — what becomes of batches that are given these replies.
* `errorTexts` — the messages about the batches whose replies give no result.

Results:
* `resultsOf_outcomesOf`, `errorsOf_outcomesOf`: results and messages stand in the order of the
  batches.
* `length_resultsOf_add_errorsOf`: each outcome counts once.
* `outcomesOf_set`: another reply to one batch changes the outcome of that batch alone.
-/

namespace VmScan.Detection

open VmScan.Json (Runtime)

/-! ## One reply -/

/-- The result that a reply gives. -/
def parsed? (runtime : Runtime) : Except Failure String → Option Result
  | .error _ => none
  | .ok response => (parse runtime response).toOption

/-- The text of the failure that a reply is. -/
def failureText? (runtime : Runtime) : Except Failure String → Option String
  | .error failure => some failure.text
  | .ok response =>
    match parse runtime response with
    | .ok _ => none
    | .error rejection => some rejection.message

/-- A reply gives a result or is a failure. -/
theorem failureText?_eq_none_iff (runtime : Runtime) (reply : Except Failure String) :
    failureText? runtime reply = none ↔ (parsed? runtime reply).isSome = true := by
  cases reply with
  | error failure => simp [failureText?, parsed?]
  | ok response =>
    cases h : parse runtime response <;> simp [failureText?, parsed?, h, Except.toOption]

/-- What becomes of a batch behind `index` others when it is given the reply. -/
def outcomeOf (runtime : Runtime) (sent : (Batch × Except Failure String) × Nat) :
    BatchOutcome where
  index := sent.2
  batch := sent.1.1
  outcome := parseAnswer runtime sent.1.2

/-- The message about a batch behind `index` others whose reply gives no result. -/
def errorText? (runtime : Runtime) (sent : (Batch × Except Failure String) × Nat) :
    Option String :=
  (failureText? runtime sent.1.2).map fun text =>
    s!"Batch {sent.2 + 1} (lines {sent.1.1.start}-{sent.1.1.finish}) failed: {text}"

theorem result?_outcomeOf (runtime : Runtime) (sent : (Batch × Except Failure String) × Nat) :
    (outcomeOf runtime sent).result? = parsed? runtime sent.1.2 := by
  obtain ⟨⟨batch, reply⟩, index⟩ := sent
  cases reply with
  | error failure => rfl
  | ok response =>
    cases h : parse runtime response <;>
      simp [BatchOutcome.result?, outcomeOf, parseAnswer, parsed?, h, Except.mapError,
        Except.toOption]

theorem error?_outcomeOf (runtime : Runtime) (sent : (Batch × Except Failure String) × Nat) :
    (outcomeOf runtime sent).error? = errorText? runtime sent := by
  obtain ⟨⟨batch, reply⟩, index⟩ := sent
  have htext : ∀ text, BatchOutcome.errorText index batch text
      = s!"Batch {index + 1} (lines {batch.start}-{batch.finish}) failed: {text}" := by
    intro text
    simp [BatchOutcome.errorText, Batch.range, String.append_assoc, toString]
  cases reply with
  | error failure =>
    simp [BatchOutcome.error?, BatchOutcome.failure?, outcomeOf, parseAnswer, errorText?,
      failureText?, htext]
  | ok response =>
    cases h : parse runtime response <;>
      simp [BatchOutcome.error?, BatchOutcome.failure?, outcomeOf, parseAnswer, errorText?,
        failureText?, h, htext, Except.mapError, Rejection.failure, Failure.text]

/-! ## A row of replies -/

/-- What becomes of the batches behind `index` others that are given these replies. -/
def outcomesOf (runtime : Runtime) (index : Nat) (batches : List Batch)
    (replies : List (Except Failure String)) :
    List BatchOutcome :=
  ((batches.zip replies).zipIdx index).map (outcomeOf runtime)

/-- The messages about the batches whose replies give no result. -/
def errorTexts (runtime : Runtime) (batches : List Batch) (replies : List (Except Failure String)) :
    List String :=
  (batches.zip replies).zipIdx.filterMap (errorText? runtime)

theorem outcomesOf_cons (runtime : Runtime) (index : Nat) (batch : Batch) (batches : List Batch)
    (reply : Except Failure String) (replies : List (Except Failure String)) :
    outcomesOf runtime index (batch :: batches) (reply :: replies)
      = { index, batch, outcome := parseAnswer runtime reply }
        :: outcomesOf runtime (index + 1) batches replies :=
  rfl

section Row

variable {runtime : Runtime} {batches : List Batch} {replies : List (Except Failure String)}

theorem length_outcomesOf (index : Nat) (h : replies.length = batches.length) :
    (outcomesOf runtime index batches replies).length = batches.length := by
  rw [outcomesOf, List.length_map, List.length_zipIdx, List.length_zip, h, Nat.min_self]

theorem map_batch_outcomesOf (runtime : Runtime) (index : Nat)
    (h : replies.length = batches.length) :
    (outcomesOf runtime index batches replies).map (·.batch) = batches := by
  have hcomp : (·.batch) ∘ outcomeOf runtime = (Prod.fst ∘ Prod.fst :
      (Batch × Except Failure String) × Nat → Batch) := rfl
  rw [outcomesOf, List.map_map, hcomp, ← List.map_map, List.zipIdx_map_fst,
    List.map_fst_zip (Nat.le_of_eq h.symm)]

theorem getElem?_outcomesOf {i : Nat} {batch : Batch} {reply : Except Failure String}
    (index : Nat) (hbatch : batches[i]? = some batch) (hreply : replies[i]? = some reply) :
    (outcomesOf runtime index batches replies)[i]?
      = some (outcomeOf runtime ((batch, reply), index + i)) := by
  have hzip : (batches.zip replies)[i]? = some (batch, reply) :=
    List.getElem?_zip_eq_some.mpr ⟨hbatch, hreply⟩
  rw [outcomesOf, List.getElem?_map, List.getElem?_zipIdx, hzip]
  rfl

/-- The results stand in the order of the batches. -/
theorem resultsOf_outcomesOf (index : Nat) (h : replies.length = batches.length) :
    resultsOf (outcomesOf runtime index batches replies) = replies.filterMap (parsed? runtime) := by
  have hcomp : (fun sent => (outcomeOf runtime sent).result?)
      = parsed? runtime ∘ (Prod.snd ∘ Prod.fst) :=
    funext (result?_outcomeOf runtime)
  rw [resultsOf, outcomesOf, List.filterMap_map]
  show ((batches.zip replies).zipIdx index).filterMap
    (fun sent => (outcomeOf runtime sent).result?) = _
  rw [hcomp, ← List.filterMap_map, ← List.map_map, List.zipIdx_map_fst,
    List.map_snd_zip (Nat.le_of_eq h)]

/-- The messages stand in the order of the batches. -/
theorem errorsOf_outcomesOf (runtime : Runtime) (batches : List Batch)
    (replies : List (Except Failure String)) :
    errorsOf (outcomesOf runtime 0 batches replies) = errorTexts runtime batches replies := by
  have hcomp : (fun sent => (outcomeOf runtime sent).error?) = errorText? runtime :=
    funext (error?_outcomeOf runtime)
  rw [errorsOf, outcomesOf, List.filterMap_map, errorTexts, ← hcomp]
  rfl

/-- Another reply to one batch changes the outcome of that batch alone. -/
theorem outcomesOf_set {k : Nat} {batch : Batch} (index : Nat) (hbatch : batches[k]? = some batch)
    (reply : Except Failure String) :
    outcomesOf runtime index batches (replies.set k reply)
      = (outcomesOf runtime index batches replies).set k
          (outcomeOf runtime ((batch, reply), index + k)) := by
  have hzip : (batches.zip (replies.set k reply)).zipIdx index
      = ((batches.zip replies).zipIdx index).set k ((batch, reply), index + k) := by
    refine List.ext_getElem? fun i => ?_
    rw [List.getElem?_zipIdx, List.getElem?_set, List.getElem?_zipIdx, List.length_zipIdx,
      List.length_zip]
    by_cases hi : k = i
    · subst hi
      have hlt : k < batches.length := (List.getElem?_eq_some_iff.mp hbatch).1
      by_cases hk : k < replies.length
      · have hnew : (replies.set k reply)[k]? = some reply := by
          rw [List.getElem?_set_self hk]
        have hpair : (batches.zip (replies.set k reply))[k]? = some (batch, reply) :=
          List.getElem?_zip_eq_some.mpr ⟨hbatch, hnew⟩
        rw [hpair, if_pos rfl, if_pos (by omega)]
        rfl
      · rw [if_pos rfl, if_neg (by omega), List.getElem?_eq_none (by
          rw [List.length_zip, List.length_set]
          omega)]
        rfl
    · rw [if_neg hi]
      congr 1
      simp only [List.zip, List.getElem?_zipWith, List.getElem?_set_ne hi]
  rw [outcomesOf, outcomesOf, hzip, List.map_set]

end Row

/-! ## Outcomes in general -/

theorem resultsOf_cons (outcome : BatchOutcome) (outcomes : List BatchOutcome) :
    resultsOf (outcome :: outcomes) = outcome.result?.toList ++ resultsOf outcomes := by
  cases h : outcome.result? <;> simp [resultsOf, h]

theorem errorsOf_cons (outcome : BatchOutcome) (outcomes : List BatchOutcome) :
    errorsOf (outcome :: outcomes) = outcome.error?.toList ++ errorsOf outcomes := by
  cases h : outcome.error? <;> simp [errorsOf, h]

/-- Each outcome gives a result or a message, and not both. -/
theorem length_resultsOf_add_errorsOf (outcomes : List BatchOutcome) :
    (resultsOf outcomes).length + (errorsOf outcomes).length = outcomes.length := by
  induction outcomes with
  | nil => rfl
  | cons first outcomes ih =>
    have hone : first.result?.toList.length + first.error?.toList.length = 1 := by
      obtain ⟨index, batch, outcome⟩ := first
      cases outcome <;> rfl
    rw [resultsOf_cons, errorsOf_cons, List.length_append, List.length_append, List.length_cons]
    omega

end VmScan.Detection
