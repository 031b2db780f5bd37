import VmScan.Detection.Batches
import VmScan.Detection.Export
import VmScan.Detection.Merge
import VmScan.Detection.Report
import VmScan.Encoding
import VmScan.Settings.Basic
import VmScan.Source

/-!
# Detection

The whole way from a file to a report. Whatever goes wrong on it ends up in the run that is
given back: nothing is raised.

* `Host` — what a detection needs from outside.
* `Session` — what is kept from one detection to the next.
* `Options` — what the caller sets apart from the settings.
* `Analyzer`, `Beautifier` — how a caller may have the lines of a batch analysed and a script made
  readable.
* `RunFault` — why a detection has no result.
* `readListing`, `planBatches`, `runBatches` — the steps of a detection, each in its place: what
  stands at the path is looked at first (`_check_input`).
* `detect`, `detectWith` — one detection, with the beautifier that the settings name or another
  (`find_jsvmp_dispatcher`).
* `Detector` — a way to carry out detections, as those who ask for them see it.
-/

namespace VmScan

open VmScan.Detection

/-- What a detection needs from outside. -/
structure Host (m : Type → Type) where
  disk : Disk m
  runtime : Json.Runtime
  transport : Transport m
  encodings : Encodings
  /-- Takes a warning. -/
  warn : String → m Unit
  /-- Takes what is told after each batch. -/
  tell : Progress → m Unit

/-- What is kept from one detection to the next. -/
structure Session where
  breakers : Registry := []
  encodings : EncodingCache := []

/-- What the caller sets apart from the settings. -/
structure Options where
  /-- The first line that is analysed. -/
  start : Option Int := none
  /-- The last line that is analysed. -/
  finish : Option Int := none
  charLimit : Option Int := none
  maxTokens : Option Int := none
  deriving DecidableEq, Repr

/-- A way to have the lines of a batch analysed. -/
abbrev Analyzer (m : Type → Type) := String → StateT Session m (Except Failure String)

/-- A way to make the script that stands at a path readable. -/
abbrev Beautifier (m : Type → Type) := Path → Entry → m Source.Reading

/-- Why a detection has no result. -/
inductive RunFault where
  | notConfigured
  | noSuchFile (path : Path)
  | allFailed (errors : List String)
  | format (fault : FormatFault)
  | batches (fault : Batch.Fault)

namespace RunFault

/-- Why a detection has no result where no file stands. -/
def noFile (path : Path) (entry : Entry) : RunFault :=
  match entry.lookError? with
  | some error => .format (.file (.system path error))
  | none => .noSuchFile path

/-- The message of a fault. -/
def message : RunFault → String
  | .notConfigured =>
    "LLM is not configured. Set OPENAI_API_KEY (or LLM_PROVIDER with the matching "
      ++ "ANTHROPIC_API_KEY / GOOGLE_API_KEY) to enable JSVMP dispatcher detection."
  | .noSuchFile path => s!"File not found: {path.text}"
  | .allFailed errors => "All batches failed: " ++ "; ".intercalate errors
  | .format fault => fault.message
  | .batches fault => fault.message

/-- The class of a fault that is to be expected. -/
def label? : RunFault → Option String
  | .notConfigured => some "ConfigurationError"
  | .noSuchFile _ => some "InputFileError"
  | .allFailed _ => some "AllBatchesFailedError"
  | .format _ | .batches _ => none

/-- The warning about a fault. -/
def warning (path : Path) (fault : RunFault) : String :=
  match fault.label? with
  | some label =>
    s!"event=detection_failed file={path.text} error_type={label} error={fault.message}"
  | none => s!"event=detection_error file={path.text}"

end RunFault

namespace Detection

variable {m : Type → Type} [Monad m]

/-- A step that only the breakers take part in. -/
def onBreakers {α : Type} (step : StateT Registry m α) : StateT Session m α := fun session => do
  let (a, breakers) ← step session.breakers
  return (a, { session with breakers })

/-- The analyser that the settings name, with a warning if the provider is unknown. -/
def settingsAnalyzer (host : Host m) (settings : Settings) :
    StateT Session m (Except RunFault (Analyzer m)) := do
  settings.providerWarning?.forM (host.warn ·)
  match settings.client? with
  | none => return .error .notConfigured
  | some client => return .ok fun code => onBreakers (client.analyze host.transport code)

/-- How scripts become readable under the settings. -/
def preparation (settings : Settings) : Preparation :=
  if settings.beautify then .layOut 2 else .asIs

/-- The beautifier that the settings name. -/
def settingsBeautifier (host : Host m) (settings : Settings) : Beautifier m := fun path entry => do
  let beside ← host.disk.look (path.withSuffix Source.mapSuffix)
  return Source.read host.runtime (preparation settings) path entry beside

/-- The listing of the file at the path, once the beautifier has made it readable. -/
def readListingWith (host : Host m) (beautify : Beautifier m) (limit : Int) (path : Path) :
    StateT Session m (Except RunFault (List Line)) := do
  let entry ← host.disk.look path
  if !entry.isFile then return .error (.noFile path entry)
  let (listing, warnings) := Source.formatRead limit (← beautify path entry)
  warnings.forM (host.warn ·)
  return listing.mapError .format

/-- The listing of the file at the path, made readable as the settings say. -/
def readListing (host : Host m) (settings : Settings) (options : Options) (path : Path) :
    StateT Session m (Except RunFault (List Line)) :=
  readListingWith host (settingsBeautifier host settings)
    (options.charLimit.getD settings.charLimit) path

/-- The lines that are analysed: all of them, unless the caller sets a bound. -/
def chosenLines (options : Options) (lines : List Line) : List Line :=
  if options.start.isNone && options.finish.isNone then lines
  else Listing.select lines (options.start.getD 1) (options.finish.getD lines.length)

/-- The counter that the settings name, with a warning if its encoding is loaded for a model that
is not known. -/
def settingsCounter (host : Host m) (settings : Settings) : StateT Session m TokenCounter := do
  match settings.counting with
  | .estimate => return estimateTokens
  | .encoding =>
    let use := (← get).encodings.use host.encodings settings.countingModel
    modify ({ · with encodings := use.cache })
    use.warning.forM (host.warn ·)
    return use.counter

/-- The batches of the lines, once all of them are written. Tokens are counted only where the budget
is one. -/
def planBatches (host : Host m) (settings : Settings) (options : Options)
    (counter : Option TokenCounter) (lines : List Line) :
    StateT Session m (Except Batch.Fault (List Batch)) := do
  match lines.mapM (·.render) with
  | .error fault => return .error (.render fault)
  | .ok texts =>
    let budget := options.maxTokens.getD settings.maxTokens
    if budget ≤ 0 then return .error .budgetNotPositive
    let counter ← match counter with
      | some counter => pure counter
      | none => settingsCounter host settings
    return Batch.create counter budget texts

/-- Hands on what became of a batch. -/
def announce (host : Host m) (total : Nat) (outcome : BatchOutcome) : StateT Session m Unit := do
  outcome.warning?.forM (host.warn ·)
  host.tell (outcome.progress total)

/-- A run that ended with a fault. -/
def failed (host : Host m) (path : Path) (run : Run) (fault : RunFault) :
    StateT Session m Run := do
  host.warn (fault.warning path)
  return { run with error := some fault.message }

/-- The run once it is known what became of its batches. -/
def concluded (run : Run) (outcomes : List BatchOutcome) : Except RunFault Run :=
  if !outcomes.isEmpty && (resultsOf outcomes).isEmpty then
    .error (.allFailed (errorsOf outcomes))
  else
    let merged := merge (resultsOf outcomes)
    .ok { run with
      success := true
      result := some merged
      report := some (merged.report run.path run.totalLines run.batchCount) }

/-- Has the batches analysed and puts the results together. -/
def runBatches (host : Host m) (analyze : Analyzer m) (path : Path) (run : Run)
    (batches : List Batch) : StateT Session m Run := do
  let run := { run with batchCount := batches.length }
  let outcomes ← analyzeBatches host.runtime analyze (announce host batches.length) batches
  let run := { run with partialErrors := errorsOf outcomes }
  match concluded run outcomes with
  | .ok run => return run
  | .error fault => failed host path run fault

/-- The run once the listing is known. -/
def runLines (host : Host m) (settings : Settings) (options : Options)
    (counter : Option TokenCounter) (analyze : Analyzer m) (path : Path) (run : Run)
    (lines : List Line) : StateT Session m Run := do
  let run := { run with totalLines := lines.length }
  match ← planBatches host settings options counter (chosenLines options lines) with
  | .error fault => failed host path run (.batches fault)
  | .ok batches => runBatches host analyze path run batches

/-- The run once the analyser and the beautifier are known. -/
def runWith (host : Host m) (beautify : Beautifier m) (settings : Settings) (options : Options)
    (counter : Option TokenCounter) (analyze : Analyzer m) (path : Path) (run : Run) :
    StateT Session m Run := do
  let limit := options.charLimit.getD settings.charLimit
  match ← readListingWith host beautify limit path with
  | .error fault => failed host path run fault
  | .ok lines => runLines host settings options counter analyze path run lines

end Detection

/-- One detection over the file with the given name. The beautifier, the analyser and the counter
are those that the settings name, unless the caller brings others. -/
def detectWith {m : Type → Type} [Monad m] (beautifier : Option (Beautifier m)) (host : Host m)
    (settings : Settings) (file : String) (options : Options) (analyzer : Option (Analyzer m))
    (counter : Option TokenCounter) : StateT Session m Run := do
  let path := Path.ofText file
  let run : Run := { path := file }
  let chosen ← match analyzer with
    | some analyze => pure (.ok analyze)
    | none => Detection.settingsAnalyzer host settings
  match chosen with
  | .error fault => Detection.failed host path run fault
  | .ok analyze =>
    let beautify := beautifier.getD (Detection.settingsBeautifier host settings)
    Detection.runWith host beautify settings options counter analyze path run

/-- One detection with the beautifier that the settings name. -/
def detect {m : Type → Type} [Monad m] (host : Host m) (settings : Settings) (file : String)
    (options : Options := {}) (analyzer : Option (Analyzer m) := none)
    (counter : Option TokenCounter := none) : StateT Session m Run :=
  detectWith none host settings file options analyzer counter

/-- A way to carry out detections. -/
abbrev Detector (m : Type → Type) := Host m → Settings → String → Options → StateT Session m Run

/-- Detections are carried out as the settings say. -/
def settingsDetector {m : Type → Type} [Monad m] : Detector m :=
  fun host settings file options => detect host settings file options

/-- The host with nobody who listens to what is told after each batch. -/
def Host.silent {m : Type → Type} [Monad m] (host : Host m) : Host m :=
  { host with tell := fun _ => pure () }

end VmScan
