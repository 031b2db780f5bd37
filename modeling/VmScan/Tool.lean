import VmScan.Detection.Detect
import VmScan.Settings.Given

/-!
# The tool

Detection as a tool that other programs call by name, with arguments that may be anything.

* `ToolArguments.ofGiven` — the arguments, if there are the right ones with the right kinds of
  values.
* `Tool.configure` — the settings with which calls run, with warnings where no model can be asked
  (`configure`).
* `Tool.call` — the report of one call, or what went wrong 
  (`find_jsvmp_dispatcher_tool`).
-/

namespace VmScan

open VmScan.Json

/-- The arguments of a call. -/
structure ToolArguments where
  file : String
  options : Options := {}
  deriving DecidableEq, Repr

namespace ToolArguments

/-- The name of the argument with the file. -/
def fileName : String := "file_path"

/-- The optional arguments by name. -/
def optional (options : Options) : List (String × Option Int) := [
  ("start_line", options.start),
  ("end_line", options.finish),
  ("char_limit", options.charLimit),
  ("max_tokens_per_batch", options.maxTokens)]

/-- The names of all arguments. -/
def names : List String :=
  fileName :: (optional {}).map (·.1)

/-- An integer that may be absent or null; the outer `none` is any other value. -/
def integer? (given : Members) (name : String) : Option (Option Int) :=
  match Json.get? given name with
  | none | some .null => some none
  | some value => (Settings.integerOf value).toOption.map some

/-- The arguments, if there are the right ones with the right kinds of values. -/
def ofGiven (given : Members) : Option ToolArguments :=
  if given.any fun (name, _) => name ∉ names then none
  else match Json.get? given fileName with
    | some (.string file) => do
      let start ← integer? given "start_line"
      let finish ← integer? given "end_line"
      let charLimit ← integer? given "char_limit"
      let maxTokens ← integer? given "max_tokens_per_batch"
      return { file, options := { start, finish, charLimit, maxTokens } }
    | _ => none

end ToolArguments

namespace Tool

/-- The name of the tool. -/
def name : String := "find_jsvmp_dispatcher"

/-- Why a call has no report. -/
inductive Fault where
  | badArguments
  | reversedRange
  | notPositive (name : String)
  | notConfigured
  | failed (error : Option String)
  deriving DecidableEq, Repr

/-- The message where there are no settings. -/
def notConfiguredMessage : String :=
  "MCP server not configured. Call configure(settings) first."

/-- The message of a fault. -/
def Fault.message : Fault → String
  | .badArguments => "Invalid arguments"
  | .reversedRange => "end_line must be greater than or equal to start_line"
  | .notPositive name => s!"{name} must be a positive integer"
  | .notConfigured => "Error calling tool '" ++ name ++ "': " ++ notConfiguredMessage
  | .failed none => "Detection failed"
  | .failed (some error) => if error = "" then "Detection failed" else error

/-- Whether the range ends before it starts. -/
def isReversed (options : Options) : Bool :=
  match options.start, options.finish with
  | some start, some finish => finish < start
  | _, _ => false

/-- The options, if the range and the limits are proper. -/
def checked (options : Options) : Except Fault Options :=
  if isReversed options then .error .reversedRange
  else
    match (ToolArguments.optional options).find? fun (_, value) => value.any (· < 1) with
    | some (name, _) => .error (.notPositive name)
    | none => .ok options

/-- The warnings where the settings name no model that can be asked. -/
def configureWarnings (settings : Settings) : List String :=
  settings.providerWarning?.toList
    ++ (if settings.modelConfig?.isSome then []
        else [s!"event=llm_not_configured provider={settings.provider}"])

variable {m : Type → Type} [Monad m]

/-- The settings with which calls run from now on. -/
def configure (host : Host m) (settings : Settings) : m (Option Settings) := do
  (configureWarnings settings).forM host.warn
  return some settings

/-- The report of a run. -/
def reportOf (run : Detection.Run) : Except Fault String :=
  match run.success, run.report with
  | true, some report => .ok report
  | _, _ => .error (.failed run.error)

/-- The report of one call. Nobody listens to what is told after each batch. -/
def call (host : Host m) (settings : Option Settings) (given : Members)
    (detector : Detector m := settingsDetector) : StateT Session m (Except Fault String) := do
  match ToolArguments.ofGiven given with
  | none => return .error .badArguments
  | some arguments =>
    match checked arguments.options, settings with
    | .error fault, _ => return .error fault
    | .ok _, none => return .error .notConfigured
    | .ok options, some settings =>
      return reportOf (← detector host.silent settings arguments.file options)

end Tool

end VmScan
