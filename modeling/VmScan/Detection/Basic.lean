/-!
# Detected interpreters

What a detection says about a script: the line ranges that hold a virtual machine, how sure the
claim is, and, where known, the variables and lines at which the machine can be watched.

* `Structure`, `Confidence`, `BytecodeLayout` — the closed vocabularies, with their labels
  (`DetectionType`, `ConfidenceLevel`, `BytecodePatternType`).
* `Region` — a claimed range of lines; `Region.overlaps` holds when two share a line
  (`DetectionRegion.overlaps`).
* `Result` — the summary, the bytecode that several machines share, and the regions
  (`DetectionResult`).
-/

namespace VmScan.Detection

/-- The kinds of structure that a region can claim. -/
inductive Structure where
  | ifElseDispatcher
  | switchDispatcher
  | instructionArray
  | stackOperation
  deriving DecidableEq, Repr

/-- All kinds, in the order in which messages list them. -/
def Structure.all : List Structure :=
  [.ifElseDispatcher, .switchDispatcher, .instructionArray, .stackOperation]

/-- The label of a kind. -/
def Structure.label : Structure → String
  | .ifElseDispatcher => "If-Else Dispatcher"
  | .switchDispatcher => "Switch Dispatcher"
  | .instructionArray => "Instruction Array"
  | .stackOperation => "Stack Operation"

/-- The kind with the given label. -/
def Structure.ofLabel? (label : String) : Option Structure :=
  Structure.all.find? (·.label = label)

/-- How sure a claim is. -/
inductive Confidence where
  | ultraHigh
  | high
  | medium
  | low
  deriving DecidableEq, Repr

/-- All confidences, the surest first. -/
def Confidence.all : List Confidence :=
  [.ultraHigh, .high, .medium, .low]

/-- The label of a confidence. -/
def Confidence.label : Confidence → String
  | .ultraHigh => "ultra_high"
  | .high => "high"
  | .medium => "medium"
  | .low => "low"

/-- The confidence with the given label. -/
def Confidence.ofLabel? (label : String) : Option Confidence :=
  Confidence.all.find? (·.label = label)

/-- The place of a confidence among the others; a surer one has a greater rank. -/
def Confidence.rank : Confidence → Nat
  | .ultraHigh => 4
  | .high => 3
  | .medium => 2
  | .low => 1

/-- How the shared bytecode is laid out. -/
inductive BytecodeLayout where
  | nestedArrays
  | slices
  | unknown
  deriving DecidableEq, Repr

/-- All layouts. -/
def BytecodeLayout.all : List BytecodeLayout :=
  [.nestedArrays, .slices, .unknown]

/-- The label of a layout. -/
def BytecodeLayout.label : BytecodeLayout → String
  | .nestedArrays => "2d_array"
  | .slices => "1d_slice"
  | .unknown => "unknown"

/-- The layout with the given label. -/
def BytecodeLayout.ofLabel? (label : String) : Option BytecodeLayout :=
  BytecodeLayout.all.find? (·.label = label)

/-- A variable in one role of the machine; without a name the role is not identified. -/
structure RoleVariable where
  name : Option String := none
  line : Option Int := none
  sourceLine : Option Int := none
  sourceColumn : Option Int := none
  confidence : Confidence := .low
  reasoning : String := ""
  deriving DecidableEq, Repr

/-- Where a hook fits inside the dispatching loop, before the opcode is read. -/
structure LoopEntry where
  line : Int
  sourceLine : Option Int := none
  sourceColumn : Option Int := none
  description : String := ""
  deriving DecidableEq, Repr

/-- The statement that fetches the opcode. -/
structure Breakpoint where
  line : Int
  sourceLine : Option Int := none
  sourceColumn : Option Int := none
  opcodeRead : Option String := none
  description : String := ""
  deriving DecidableEq, Repr

/-- The parts of one machine. -/
structure Machine where
  instructionPointer : RoleVariable
  stackPointer : RoleVariable
  virtualStack : RoleVariable
  bytecodeArray : RoleVariable
  loopEntry : Option LoopEntry := none
  breakpoint : Option Breakpoint := none
  deriving DecidableEq, Repr

/-- A single line at which to start watching. -/
structure EntryPoint where
  line : Int
  description : String := ""
  deriving DecidableEq, Repr

/-- The bytecode that several machines share. -/
structure Bytecode where
  name : Option String := none
  definitionLine : Option Int := none
  sourceLine : Option Int := none
  sourceColumn : Option Int := none
  layout : Option BytecodeLayout := none
  localName : Option String := none
  transform : Option String := none
  structureDescription : Option String := none
  description : String := ""
  deriving DecidableEq, Repr

/-- A claimed range of lines that holds one machine. -/
structure Region where
  start : Int
  finish : Int
  kind : Structure
  confidence : Confidence
  description : String
  machine : Option Machine := none
  entryPoint : Option EntryPoint := none
  deriving DecidableEq, Repr

/-- Whether two regions share a line. -/
def Region.overlaps (a b : Region) : Bool :=
  a.start ≤ b.finish && b.start ≤ a.finish

/-- What a script as a whole contains: one text, or a description with advice. -/
inductive Summary where
  | plain (text : String)
  | advised (overall recommendation : String)
  deriving DecidableEq, Repr

/-- The description in a summary. -/
def Summary.text : Summary → String
  | .plain text => text
  | .advised overall _ => overall

/-- What is detected in one batch, or in a whole script. -/
structure Result where
  summary : Summary
  bytecode : Option Bytecode := none
  regions : List Region := []
  deriving DecidableEq, Repr

end VmScan.Detection
