import VmScan.Batch
import VmScan.Detection.Response
import VmScan.Failure.Kind
import VmScan.Number.Percent

/-!
# Analysing batches

The batches of a script go to a model one after another. What happens to one of them has no
effect on the others: a failure is recorded, and the next batch is sent.

* `BatchOutcome` — what became of one batch: a result, or a failure.
* `BatchOutcome.errorText` — the message about a failed batch (`format_batch_error`).
* `analyzeBatches` — sends all batches, and tells what became of each as soon as it is known
  (`process_batches`).
* `resultsOf`, `errorsOf` — what is read off the outcomes.
* `Progress` — what is told after each batch (`BatchProgress`); of the batch itself only the range
  of its lines.
-/

namespace VmScan

namespace Detection

/-- The class of a refusal: the two limits on a text have classes of their own. -/
def Rejection.className : Rejection → String
  | .tooManyDigits _ => "ValueError"
  | .tooDeep _ => "RecursionError"
  | _ => "ResponseParseError"

/-- The refusal of a response as a failure. -/
def Rejection.failure (rejection : Rejection) : Failure where
  fault := {
    name := rejection.className
    text := rejection.message
    signals := match rejection with
      | .tooManyDigits _ | .tooDeep _ => []
      | _ => [.refusedResponse] }

/-- The result in an answer of a model. -/
def parseAnswer (runtime : Json.Runtime) : Except Failure String → Except Failure Result
  | .error failure => .error failure
  | .ok response => (parse runtime response).mapError (·.failure)

/-- What became of one batch. -/
structure BatchOutcome where
  /-- The number of batches before it. -/
  index : Nat
  batch : Batch
  outcome : Except Failure Result

namespace BatchOutcome

/-- The result of a batch, if it has one. -/
def result? (outcome : BatchOutcome) : Option Result :=
  outcome.outcome.toOption

/-- The failure of a batch, if it has one. -/
def failure? (outcome : BatchOutcome) : Option Failure :=
  match outcome.outcome with
  | .ok _ => none
  | .error failure => some failure

/-- The message about a failed batch. -/
def errorText (index : Nat) (batch : Batch) (text : String) : String :=
  s!"Batch {index + 1} (lines {batch.range}) failed: {text}"

/-- The message about the batch, if it failed. -/
def error? (outcome : BatchOutcome) : Option String :=
  outcome.failure?.map fun failure => errorText outcome.index outcome.batch failure.text

/-- The greatest number of characters of a failure in a warning. -/
def warningLength : Nat := 200

/-- The warning about the batch, if it failed. -/
def warning? (outcome : BatchOutcome) : Option String :=
  outcome.failure?.map fun failure =>
    let text := String.ofList (failure.text.toList.take warningLength)
    s!"event=batch_failed batch={outcome.index + 1} lines={outcome.batch.range} "
      ++ s!"kind={failure.kind.label} error={text}"

end BatchOutcome

/-- What is told after each batch. -/
structure Progress where
  index : Nat
  total : Nat
  lines : String
  error : Option String
  deriving DecidableEq, Repr

/-- Whether the batch has a result. -/
def Progress.ok (progress : Progress) : Bool :=
  progress.error.isNone

/-- How much of the batches is done, in percent. -/
def Progress.percent (progress : Progress) : Number.Binary64 :=
  Number.percent (progress.index + 1) progress.total

/-- What is told after a batch of `total`. -/
def BatchOutcome.progress (outcome : BatchOutcome) (total : Nat) : Progress where
  index := outcome.index
  total
  lines := outcome.batch.range
  error := outcome.error?

/-- Sends the batches behind the first `index`, and hands on what became of each. -/
def analyzeFrom {m : Type → Type} [Monad m] (runtime : Json.Runtime)
    (analyze : String → m (Except Failure String)) (tell : BatchOutcome → m Unit) (index : Nat) :
    List Batch → m (List BatchOutcome)
  | [] => return []
  | batch :: rest => do
    let outcome : BatchOutcome :=
      { index, batch, outcome := parseAnswer runtime (← analyze batch.content) }
    tell outcome
    return outcome :: (← analyzeFrom runtime analyze tell (index + 1) rest)

/-- Sends the batches, and hands on what became of each. -/
def analyzeBatches {m : Type → Type} [Monad m] (runtime : Json.Runtime)
    (analyze : String → m (Except Failure String)) (tell : BatchOutcome → m Unit)
    (batches : List Batch) : m (List BatchOutcome) :=
  analyzeFrom runtime analyze tell 0 batches

/-- The results of the batches that have one. -/
def resultsOf (outcomes : List BatchOutcome) : List Result :=
  outcomes.filterMap (·.result?)

/-- The messages about the batches that failed. -/
def errorsOf (outcomes : List BatchOutcome) : List String :=
  outcomes.filterMap (·.error?)

end Detection

end VmScan
