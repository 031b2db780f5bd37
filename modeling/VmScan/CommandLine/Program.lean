import VmScan.CommandLine.Arguments
import VmScan.Detection.Detect
import VmScan.Settings.Environment
import VmScan.Tool

/-!
# The program

* `Shell` — what the program needs from outside, besides what a detection needs.
* `ProgramFault` — what ends the program without an exit code of its own.
* `analyze` — the analysis of a file (`_run_analyze`).
* `serve` — the tool for other programs (`_run_mcp`).
* `execute` — what the program does on a command line (`main`).
* `exitNumber` — the number with which the program ends.
-/

namespace VmScan.CommandLine

open VmScan.Detection

/-- Why a text cannot be written to the output: its encoding has no place for some character. -/
structure EncodingFault where
  message : String
  deriving DecidableEq, Repr

/-- What the program needs from outside. -/
structure Shell (m : Type → Type) where
  host : Host m
  environment : Settings.Environment
  /-- Writes text to the output, all of it or nothing. -/
  out : String → m (Except EncodingFault Unit)
  /-- Writes text to the error output, which has a form for every character. -/
  err : String → m Unit
  /-- Sets the level of the main logger. -/
  setLevel : LogLevel → m Unit
  /-- The time at which a run is written. -/
  stamp : m String
  /-- The milliseconds since the last call. -/
  lap : m String
  /-- Serves the tool with the settings. -/
  serve : Service → Settings → m Unit

/-- What ends the program without an exit code of its own. -/
inductive ProgramFault where
  | settings (invalid : List Settings.Invalid)
  | bindings (fault : Text.Utf8.Fault)
  | bindingsFile (fault : FileFault)
  | output (fault : FileFault)
  | encoding (fault : EncodingFault)

/-- The exit codes of a program that did what it should, that did not, and that was not asked
properly. -/
inductive ExitCode where
  | success
  | failure
  | usage
  deriving DecidableEq, Repr

/-- The number of an exit code. -/
def ExitCode.number : ExitCode → Nat
  | .success => 0
  | .failure => 1
  | .usage => 2

/-- The number with which the program ends; a fault that nothing handles is a failure. -/
def exitNumber : Except ProgramFault ExitCode → Nat
  | .ok code => code.number
  | .error _ => ExitCode.failure.number

/-- The version of the program. -/
def version : String := "0.1.0"

/-- The path of the file of bindings that is read besides the environment. -/
def bindingsPath : Path := Path.ofText ".env"

variable {m : Type → Type} [Monad m]

/-- Writes a line to the output. -/
def Shell.outLine (shell : Shell m) (line : String) : m (Except ProgramFault Unit) := do
  return (← shell.out (line ++ "\n")).mapError .encoding

/-- Writes a line to the error output. -/
def Shell.errLine (shell : Shell m) (line : String) : m Unit :=
  shell.err (line ++ "\n")

/-- The settings of the environment and of the file of bindings, if there is one. -/
def readSettings (shell : Shell m) : m (Except ProgramFault Settings) := do
  let entry ← shell.host.disk.look bindingsPath
  match entry.lookError?, entry with
  | some error, _ | none, .closed error =>
    return .error (.bindingsFile (.system bindingsPath error))
  | none, .file bytes =>
    match Text.Utf8.decode bytes with
    | .error fault => return .error (.bindings fault)
    | .ok cs =>
      let file := String.ofList (Text.unifyLineEnds cs)
      return (Settings.ofEnvironment shell.environment (some file)).mapError .settings
  | _, _ => return (Settings.ofEnvironment shell.environment none).mapError .settings

/-! ## Analysing a file -/

/-- The line about a batch. -/
def progressLine (progress : Progress) (milliseconds : String) : String :=
  let status := if progress.ok then "ok" else "FAILED"
  s!"  [{status}] batch {progress.index + 1}/{progress.total} "
    ++ s!"(lines {progress.lines}, {milliseconds}ms)"

/-- The host of an analysis, which tells about each batch if it is to be verbose. -/
def talkingHost (shell : Shell m) (verbose : Bool) : Host m :=
  { shell.host with
    tell := fun progress => do
      if verbose then
        shell.errLine (progressLine progress (← shell.lap)) }

/-- The bounds and limits of an analysis. -/
def AnalyzeArguments.options (arguments : AnalyzeArguments) : Options where
  start := arguments.start
  finish := arguments.finish
  charLimit := arguments.charLimit
  maxTokens := arguments.maxTokens

/-- Whether the last line is set in front of the first one. -/
def AnalyzeArguments.isReversed (arguments : AnalyzeArguments) : Bool :=
  arguments.start.any fun start => arguments.finish.any fun finish => finish < start

/-- Writes a run to the file, or to the output if there is something to show. -/
def deliver (shell : Shell m) (arguments : AnalyzeArguments) (run : Run) (text : String) :
    m (Except ProgramFault Unit) := do
  match arguments.output.filter (· ≠ "") with
  | some file =>
    let bytes := Text.Utf8.encode (text ++ "\n").toList
    match ← shell.host.disk.write (Path.ofText file) bytes with
    | .error fault => return .error (.output fault)
    | .ok () =>
      shell.errLine s!"Output: {file}"
      return .ok ()
  | none =>
    if run.success || arguments.format = .json then shell.outLine text
    else return .ok ()

/-- Says how a run ended. -/
def conclude (shell : Shell m) (run : Run) : m ExitCode := do
  if run.success then
    run.partialErrors.forM fun error => shell.errLine s!"Warning: {error}"
    return .success
  else
    shell.errLine s!"Error: {errorText run.error}"
    return .failure

/-- Writes a run and says how it ended. -/
def present (shell : Shell m) (arguments : AnalyzeArguments) (run : Run) :
    m (Except ProgramFault ExitCode) := do
  let text := run.write (← shell.stamp) arguments.format
  match ← deliver shell arguments run text with
  | .error fault => return .error fault
  | .ok () => return .ok (← conclude shell run)

/-- Analyses a file under the settings. -/
def analyzeWith (shell : Shell m) (detector : Detector m) (arguments : AnalyzeArguments)
    (settings : Settings) : StateT Session m (Except ProgramFault ExitCode) := do
  shell.setLevel (if arguments.verbose then .debug else settings.logLevel)
  let host := talkingHost shell arguments.verbose
  let run ← detector host settings arguments.file arguments.options
  StateT.lift (present shell arguments run)

/-- Analyses a file. -/
def analyze (shell : Shell m) (detector : Detector m) (arguments : AnalyzeArguments) :
    StateT Session m (Except ProgramFault ExitCode) := do
  if arguments.isReversed then
    shell.errLine "Error: --end-line must be >= --start-line"
    return .ok .failure
  match ← StateT.lift (readSettings shell) with
  | .error fault => return .error fault
  | .ok settings => analyzeWith shell detector arguments settings

/-! ## Serving the tool -/

/-- Serves the tool. -/
def serve (shell : Shell m) (arguments : ServeArguments) :
    StateT Session m (Except ProgramFault ExitCode) := do
  match ← StateT.lift (readSettings shell) with
  | .error fault => return .error fault
  | .ok settings =>
    shell.setLevel settings.logLevel
    (Tool.configureWarnings settings).forM (shell.host.warn ·)
    shell.serve arguments.service settings
    return .ok .success

/-! ## The program -/

/-- Says what is wrong with a command line, below the usage of the program. -/
def complain (shell : Shell m) (usage : List String) (program message : String) : m Unit := do
  usage.forM shell.errLine
  shell.errLine s!"{program}: error: {message}"

/-- Carries out a command. -/
def runCommand (shell : Shell m) (detector : Detector m) :
    Command → StateT Session m (Except ProgramFault ExitCode)
  | .analyze arguments => analyze shell detector arguments
  | .serve arguments => serve shell arguments

/-- Does what the command line asks for, with detections carried out by the detector. -/
def execute (shell : Shell m) (texts : List String) (detector : Detector m := settingsDetector) :
    StateT Session m (Except ProgramFault ExitCode) := do
  match Invocation.ofTexts texts with
  | .showVersion =>
    return (← shell.outLine s!"{programName} {version}").map fun () => .success
  | .showHelp lines =>
    return (← shell.outLine ("\n".intercalate lines)).map fun () => .success
  | .refuse usage program message =>
    StateT.lift (complain shell usage program message)
    return .ok .usage
  | .run command => runCommand shell detector command

end VmScan.CommandLine
