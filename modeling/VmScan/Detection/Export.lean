import VmScan.Detection.Basic
import VmScan.Json.Printer

/-!
# Runs and their written forms

* `Run` — the outcome of one detection over a script (`DetectionRunResult`).
* `Result.toJson` — a result as a JSON value; every field is written, an absent one as null.
* `Run.write` — a run in one of the two formats: the report or the error as text, or everything
  as JSON (`export_run`, `export_json`).
-/

namespace VmScan.Detection

open VmScan.Json

/-- The outcome of one detection over a script. -/
structure Run where
  success : Bool := false
  path : String
  totalLines : Int := 0
  batchCount : Int := 0
  result : Option Result := none
  report : Option String := none
  error : Option String := none
  partialErrors : List String := []
  deriving DecidableEq, Repr

/-- An optional text as a value. -/
def ofText? : Option String → Value
  | none => .null
  | some text => .string text

/-- An optional integer as a value. -/
def ofInt? : Option Int → Value
  | none => .null
  | some n => .int n

/-- A variable in a role as a value. -/
def RoleVariable.toJson (role : RoleVariable) : Value :=
  .object [
    ("variable_name", ofText? role.name),
    ("line_number", ofInt? role.line),
    ("source_line", ofInt? role.sourceLine),
    ("source_column", ofInt? role.sourceColumn),
    ("confidence", .string role.confidence.label),
    ("reasoning", .string role.reasoning)]

/-- The entry of the loop as a value. -/
def LoopEntry.toJson (entry : LoopEntry) : Value :=
  .object [
    ("line_number", .int entry.line),
    ("source_line", ofInt? entry.sourceLine),
    ("source_column", ofInt? entry.sourceColumn),
    ("description", .string entry.description)]

/-- The statement that fetches the opcode as a value. -/
def Breakpoint.toJson (point : Breakpoint) : Value :=
  .object [
    ("line_number", .int point.line),
    ("source_line", ofInt? point.sourceLine),
    ("source_column", ofInt? point.sourceColumn),
    ("opcode_read_pattern", ofText? point.opcodeRead),
    ("description", .string point.description)]

/-- The parts of a machine as a value. -/
def Machine.toJson (machine : Machine) : Value :=
  .object [
    ("instruction_pointer", machine.instructionPointer.toJson),
    ("stack_pointer", machine.stackPointer.toJson),
    ("virtual_stack", machine.virtualStack.toJson),
    ("bytecode_array", machine.bytecodeArray.toJson),
    ("loop_entry", (machine.loopEntry.map (·.toJson)).getD .null),
    ("breakpoint", (machine.breakpoint.map (·.toJson)).getD .null)]

/-- The single entry point as a value. -/
def EntryPoint.toJson (entry : EntryPoint) : Value :=
  .object [("line_number", .int entry.line), ("description", .string entry.description)]

/-- The shared bytecode as a value. -/
def Bytecode.toJson (bytecode : Bytecode) : Value :=
  .object [
    ("variable_name", ofText? bytecode.name),
    ("definition_line", ofInt? bytecode.definitionLine),
    ("source_line", ofInt? bytecode.sourceLine),
    ("source_column", ofInt? bytecode.sourceColumn),
    ("pattern_type", ofText? (bytecode.layout.map (·.label))),
    ("local_bytecode_var", ofText? bytecode.localName),
    ("transform_expression", ofText? bytecode.transform),
    ("structure_description", ofText? bytecode.structureDescription),
    ("description", .string bytecode.description)]

/-- A region as a value. -/
def Region.toJson (region : Region) : Value :=
  .object [
    ("start", .int region.start),
    ("end", .int region.finish),
    ("type", .string region.kind.label),
    ("confidence", .string region.confidence.label),
    ("description", .string region.description),
    ("vm_components", (region.machine.map (·.toJson)).getD .null),
    ("debugging_entry_point", (region.entryPoint.map (·.toJson)).getD .null)]

/-- A summary as a value. -/
def Summary.toJson : Summary → Value
  | .plain text => .string text
  | .advised overall recommendation =>
    .object [
      ("overall_description", .string overall),
      ("debugging_recommendation", .string recommendation)]

/-- A result as a value. -/
def Result.toJson (result : Result) : Value :=
  .object [
    ("summary", result.summary.toJson),
    ("global_bytecode", (result.bytecode.map (·.toJson)).getD .null),
    ("regions", .array (result.regions.map (·.toJson)))]

/-- A run as a value, with the time at which it is written. -/
def Run.toJson (run : Run) (generatedAt : String) : Value :=
  .object [
    ("file_path", .string run.path),
    ("generated_at", .string generatedAt),
    ("success", .bool run.success),
    ("total_lines", .int run.totalLines),
    ("batch_count", .int run.batchCount),
    ("error", ofText? run.error),
    ("partial_errors", .array (run.partialErrors.map .string)),
    ("result", (run.result.map (·.toJson)).getD .null)]

/-- The formats in which a run is written. -/
inductive Format where
  | text
  | json
  deriving DecidableEq, Repr

/-- All formats. -/
def Format.all : List Format := [.text, .json]

/-- The name of a format. -/
def Format.name : Format → String
  | .text => "text"
  | .json => "json"

/-- The format with the given name. -/
def Format.ofName? (name : String) : Option Format :=
  Format.all.find? (·.name = name)

/-- The message for a name that no format has. -/
def unsupportedFormatMessage (name : String) : String :=
  s!"Unsupported format: {name}. Use: " ++ ", ".intercalate (Format.all.map (·.name))

/-- The text that stands for an error that may be absent. -/
def errorText (error : Option String) : String :=
  error.getD "None"

/-- The run in the given format; as text it is the report, or the error of a run without one. -/
def Run.write (run : Run) (generatedAt : String) : Format → String
  | .json => encode (run.toJson generatedAt)
  | .text => run.report.getD s!"Error: {errorText run.error}"

end VmScan.Detection
