import VmScan.Detection.Basic
import VmScan.Text.Lines

/-!
# The text report

A merged result as a text for people to read (`format_detection_report`): a heading, the summary,
the shared bytecode (`_global_bytecode_lines`), and a section for each region (`_region_lines`,
`_vm_component_lines`). A part that is absent, or a text that is empty, has no line; the one
exception is the line at which a named bytecode is defined.
-/

namespace VmScan.Detection

/-- A place in the script before it was laid out, where both coordinates are known. -/
def sourcePlace (line column : Option Int) : String :=
  match line, column with
  | some line, some column => s!" [Src L{line}:{column}]"
  | _, _ => ""

/-- A count and its noun, in the plural above one. -/
def counted (count : Int) (noun ending : String) : String :=
  s!"{count} {noun}" ++ (if 1 < count then ending else "")

/-- The line of a text that may be absent; an empty text counts as absent. -/
def optionalLine (label : String) : Option String → List String
  | none => []
  | some text => if text = "" then [] else [label ++ text]

/-- An optional line number. -/
def lineNumberText : Option Int → String
  | none => "None"
  | some n => toString n

/-- The lines of the shared bytecode. -/
def Bytecode.reportLines (bytecode : Bytecode) : List String :=
  let name := (bytecode.name.getD "")
  ["Global Bytecode:"]
    ++ (if name = "" then [] else
      [s!"  Variable: {name} (line {lineNumberText bytecode.definitionLine})"
        ++ sourcePlace bytecode.sourceLine bytecode.sourceColumn])
    ++ optionalLine "  Pattern: " (bytecode.layout.map (·.label))
    ++ optionalLine "  Local Bytecode Var: " bytecode.localName
    ++ optionalLine "  Transform: " bytecode.transform
    ++ optionalLine "  Structure: " bytecode.structureDescription
    ++ optionalLine "  " (some bytecode.description)

/-- The lines of a variable in a role, if it has a name. -/
def RoleVariable.reportLines (label : String) (role : RoleVariable) : List String :=
  let name := role.name.getD ""
  if name = "" then [] else
    [s!"    - {label}: {name} [{role.confidence.label}]"
      ++ sourcePlace role.sourceLine role.sourceColumn,
     s!"      {role.reasoning}"]

/-- The lines of the entry of the loop. -/
def LoopEntry.reportLines (entry : LoopEntry) : List String :=
  s!"    - Loop Entry: Line {entry.line}{sourcePlace entry.sourceLine entry.sourceColumn}"
    :: optionalLine "      " (some entry.description)

/-- The lines of the statement that fetches the opcode. -/
def Breakpoint.reportLines (point : Breakpoint) : List String :=
  s!"    - Breakpoint: Line {point.line}{sourcePlace point.sourceLine point.sourceColumn}"
    :: optionalLine "      Opcode Read: " point.opcodeRead
    ++ optionalLine "      " (some point.description)

/-- The lines of the parts of a machine. -/
def Machine.reportLines (machine : Machine) : List String :=
  ["  VM Components:"]
    ++ machine.instructionPointer.reportLines "Instruction Pointer"
    ++ machine.stackPointer.reportLines "Stack Pointer"
    ++ machine.virtualStack.reportLines "Virtual Stack"
    ++ machine.bytecodeArray.reportLines "Bytecode Array"
    ++ (machine.loopEntry.map (·.reportLines)).getD []
    ++ (machine.breakpoint.map (·.reportLines)).getD []

/-- The lines of the single entry point. -/
def EntryPoint.reportLines (entry : EntryPoint) : List String :=
  [s!"  Debugging Entry Point: Line {entry.line}", s!"    {entry.description}"]

/-- Whether the region names the statement that fetches the opcode. -/
def Region.hasBreakpoint (region : Region) : Bool :=
  (region.machine.bind (·.breakpoint)).isSome

/-- The lines of the region with the given number; the single entry point gives way to the
statement that fetches the opcode. -/
def Region.reportLines (number : Nat) (region : Region) : List String :=
  [s!"--- Instance {number} ---",
   s!"[{region.confidence.label}] Lines {region.start}-{region.finish}: {region.kind.label}",
   s!"  {region.description}"]
    ++ (region.machine.map (·.reportLines)).getD []
    ++ (if region.hasBreakpoint then [] else (region.entryPoint.map (·.reportLines)).getD [])

/-- The lines of a summary. -/
def Summary.reportLines : Summary → List String
  | .plain text => [s!"Summary: {text}"]
  | .advised overall recommendation =>
    [s!"Summary: {overall}", s!"Recommendation: {recommendation}"]

/-- The lines of the sections for the regions. -/
def regionSections (regions : List Region) : List String :=
  if regions.isEmpty then ["No JSVMP dispatcher patterns detected."]
  else
    let heading := counted regions.length "JSVMP instance" "s"
    s!"Detected Regions ({heading}):" :: ""
      :: (regions.mapIdx fun index region => region.reportLines (index + 1) ++ [""]).flatten

/-- The parts of a report, in order. -/
def Result.reportLines (result : Result) (path : String) (totalLines batchCount : Int) :
    List String :=
  ["=== JSVMP Dispatcher Detection Result ===",
   s!"File: {path} ({totalLines} lines, " ++ counted batchCount "batch" "es" ++ ")",
   ""]
    ++ result.summary.reportLines ++ [""]
    ++ (result.bytecode.map (·.reportLines ++ [""])).getD []
    ++ regionSections result.regions

/-- The report over the result for a script of `totalLines` lines in `batchCount` batches. -/
def Result.report (result : Result) (path : String) (totalLines batchCount : Int) : String :=
  Text.unlines (result.reportLines path totalLines batchCount)

end VmScan.Detection
