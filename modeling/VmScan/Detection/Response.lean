import VmScan.Detection.Basic
import VmScan.Json.Reader
import VmScan.Number.Shortest
import VmScan.Text.Blank

/-!
# Model responses

Reading a model's answer as a detection result.

* `stripFence` — the text inside a code fence that wraps a whole answer (`_strip_fences`).
* `Rejection` — every way in which an answer is refused, with its message.
* Required fields are read strictly: the summary, the list of regions, and in each region its
  lines, kind, confidence and description. A line is given by its present name, or by its older
  name where the present one is absent or null.
* Optional parts are read leaf by leaf: one that is not of its type is absent, and no optional
  part can make a response fail.
* `parse` — the whole reading (`parse_detection_result`).
-/

namespace VmScan.Detection

open VmScan.Json VmScan.Number

/-! ## Fences -/

/-- The text behind the tag of a fence, if it carries one. -/
def dropFenceTag (cs : List Char) : List Char :=
  match cs with
  | 'j' :: 's' :: 'o' :: 'n' :: rest => rest
  | 'J' :: 'S' :: 'O' :: 'N' :: rest => rest
  | _ => cs

/-- The text behind the last line feed of its leading blanks, if they hold one. -/
def behindBlankLine? (cs : List Char) : Option (List Char) :=
  let blanks := cs.takeWhile Text.isBlank
  let rest := cs.dropWhile Text.isBlank
  if blanks.contains '\n' then
    some ((blanks.reverse.takeWhile (· ≠ '\n')).reverse ++ rest)
  else none

/-- The text without a closing fence, if it ends with one. -/
def dropClosingFence? (cs : List Char) : Option (List Char) :=
  match cs.reverse with
  | '\x60' :: '\x60' :: '\x60' :: rest => some rest.reverse
  | _ => none

/-- The text inside a fence that is all of the given text, blanks around it apart. -/
def insideFence? (cs : List Char) : Option (List Char) :=
  match Text.strip cs with
  | '\x60' :: '\x60' :: '\x60' :: rest =>
    (behindBlankLine? (dropFenceTag rest)).bind dropClosingFence?
  | _ => none

/-- The text without a fence that wraps all of it (`_strip_fences`). -/
def stripFence (cs : List Char) : List Char :=
  (insideFence? cs).getD cs

/-! ## Refusals -/

/-- The two ends of a region. -/
inductive LineField where
  | first
  | last
  deriving DecidableEq, Repr

/-- The present name of the field. -/
def LineField.name : LineField → String
  | .first => "start_line"
  | .last => "end_line"

/-- The older name of the field. -/
def LineField.olderName : LineField → String
  | .first => "start"
  | .last => "end"

/-- The fields of a region that hold text. -/
inductive TextField where
  | kind
  | confidence
  | description
  deriving DecidableEq, Repr

/-- The name of the field. -/
def TextField.name : TextField → String
  | .kind => "type"
  | .confidence => "confidence"
  | .description => "description"

/-- What is wrong with a region. -/
inductive RegionFault where
  | notObject
  | missingLine (field : LineField)
  | brokenLine (field : LineField) (shown : String)
  | missingText (field : TextField)
  | unknownLabel (field : TextField) (label : String) (valid : List String)
  | reversed (start finish : Int)
  deriving DecidableEq, Repr

/-- Why a response is refused. -/
inductive Rejection where
  | malformed (fault : Fault) (position : Position)
  | notObject
  | missingSummary
  | incompleteSummary
  | missingRegions
  | region (index : Nat) (fault : RegionFault)
  | tooManyDigits (count : Nat)
  | tooDeep (container : Container)
  deriving DecidableEq, Repr

/-- What is wrong with the region that `place` names. -/
def RegionFault.message (place : String) : RegionFault → String
  | .notObject => s!"{place} is not an object"
  | .missingLine field =>
    s!"{place} missing required field: {field.name} or {field.olderName}"
  | .brokenLine field shown =>
    s!"{place}.{field.name} must be an integer line number, got {shown}"
  | .missingText field => s!"{place} missing required field: {field.name}"
  | .unknownLabel field label valid =>
    let listed := ", ".intercalate valid
    s!"{place}.{field.name} has invalid value \"{label}\". Valid values: {listed}"
  | .reversed start finish => s!"{place} start line {start} is after end line {finish}"

/-- The message of a refusal. -/
def Rejection.message : Rejection → String
  | .malformed fault position =>
    s!"Could not parse model response as JSON: {faultMessage fault position}"
  | .notObject => "Invalid model response: expected a JSON object"
  | .missingSummary => "Invalid model response: missing required field: summary"
  | .incompleteSummary =>
    "Invalid model response: summary object requires string fields "
      ++ "overall_description and debugging_recommendation"
  | .missingRegions => "Invalid model response: missing required field: regions"
  | .region index fault =>
    let place := s!"regions[{index}]"
    "Invalid model response: " ++ fault.message place
  | .tooManyDigits count => tooManyDigitsMessage count
  | .tooDeep container => tooDeepMessage container

/-- The refusal of a text that the reader of JSON does not take. -/
def Rejection.ofStop (text : List Char) : Stop → Rejection
  | .malformed fault rest => .malformed fault (positionOf text rest)
  | .tooManyDigits count => .tooManyDigits count
  | .tooDeep container => .tooDeep container

/-! ## Optional leaves -/

/-- The integer that a number of the response is: an integer within the binary64 range, or a
binary64 number without a fraction. -/
def wholeNumber? : Value → Option Int
  | .int n => if fitsBinary64 n then some n else none
  | .float x => x.toInt?
  | _ => none

/-- The integer in a member. -/
def intMember? (members : Members) (name : String) : Option Int :=
  (get? members name).bind wholeNumber?

/-- The text of a value. -/
def text? : Value → Option String
  | .string s => some s
  | _ => none

/-- The text in a member. -/
def textMember? (members : Members) (name : String) : Option String :=
  (get? members name).bind text?

/-- The text in a member, empty where there is none. -/
def textMember (members : Members) (name : String) : String :=
  (textMember? members name).getD ""

/-- The members of a value that is an object. -/
def object? : Value → Option Members
  | .object members => some members
  | _ => none

/-- The members of the object in a member. -/
def objectMember? (members : Members) (name : String) : Option Members :=
  (get? members name).bind object?

/-! ## Optional parts -/

/-- A variable in a role; its confidence must be a known one (`_parse_vm_variable`). -/
def roleVariable? (members : Members) : Option RoleVariable := do
  let confidence ← (textMember? members "confidence").bind Confidence.ofLabel?
  return {
    name := textMember? members "variable_name"
    line := intMember? members "line_number"
    sourceLine := intMember? members "source_line"
    sourceColumn := intMember? members "source_column"
    confidence
    reasoning := textMember members "reasoning" }

/-- The entry of the loop, if it has a line (`_parse_loop_entry`). -/
def loopEntry? (members : Members) : Option LoopEntry := do
  let line ← intMember? members "line_number"
  return {
    line
    sourceLine := intMember? members "source_line"
    sourceColumn := intMember? members "source_column"
    description := textMember members "description" }

/-- The statement that fetches the opcode, if it has a line (`_parse_breakpoint`). -/
def breakpoint? (members : Members) : Option Breakpoint := do
  let line ← intMember? members "line_number"
  return {
    line
    sourceLine := intMember? members "source_line"
    sourceColumn := intMember? members "source_column"
    opcodeRead := textMember? members "opcode_read_pattern"
    description := textMember members "description" }

/-- The single entry point, if it has a line (`_parse_debugging_entry_point`). -/
def entryPoint? (members : Members) : Option EntryPoint := do
  let line ← intMember? members "line_number"
  return { line, description := textMember members "description" }

/-- The parts of a machine, if at least one of the four roles has a known confidence
(`_parse_vm_components`). -/
def machine? (members : Members) : Option Machine :=
  let role (name : String) := (objectMember? members name).bind roleVariable?
  let instructionPointer := role "instruction_pointer"
  let stackPointer := role "stack_pointer"
  let virtualStack := role "virtual_stack"
  let bytecodeArray := role "bytecode_array"
  if instructionPointer.isNone && stackPointer.isNone && virtualStack.isNone
      && bytecodeArray.isNone then none
  else some {
    instructionPointer := instructionPointer.getD {}
    stackPointer := stackPointer.getD {}
    virtualStack := virtualStack.getD {}
    bytecodeArray := bytecodeArray.getD {}
    loopEntry := (objectMember? members "loop_entry").bind loopEntry?
    breakpoint := (objectMember? members "breakpoint").bind breakpoint? }

/-- The shared bytecode (`_parse_global_bytecode`). -/
def bytecode (members : Members) : Bytecode where
  name := textMember? members "variable_name"
  definitionLine := intMember? members "definition_line"
  sourceLine := intMember? members "source_line"
  sourceColumn := intMember? members "source_column"
  layout := (textMember? members "pattern_type").bind BytecodeLayout.ofLabel?
  localName := textMember? members "local_bytecode_var"
  transform := textMember? members "transform_expression"
  structureDescription := textMember? members "structure_description"
  description := textMember members "description"

/-! ## Required fields -/

/-- How a number that is no line is shown; `none` for a value that is no number. -/
def shownNumber? : Value → Option String
  | .int n => some (toString n)
  | .float x => some x.text
  | _ => none

/-- The value for a line: of the present name, or of the older one where that is absent or null. -/
def lineValue (members : Members) (field : LineField) : Value :=
  match get? members field.name with
  | none | some .null => (get? members field.olderName).getD .null
  | some value => value

/-- A line of a region (`_required_line`). -/
def requiredLine (members : Members) (field : LineField) : Except RegionFault Int :=
  let value := lineValue members field
  match shownNumber? value with
  | none => .error (.missingLine field)
  | some shown =>
    match wholeNumber? value with
    | none => .error (.brokenLine field shown)
    | some n => .ok n

/-- A text of a region. -/
def requiredText (members : Members) (field : TextField) : Except RegionFault String :=
  match textMember? members field.name with
  | none => .error (.missingText field)
  | some text => .ok text

/-- The meaning of a label, out of a closed vocabulary (`_required_enum`). -/
def requiredLabel {α : Type} (field : TextField) (label : String) (ofLabel? : String → Option α)
    (valid : List String) : Except RegionFault α :=
  match ofLabel? label with
  | none => .error (.unknownLabel field label valid)
  | some a => .ok a

/-- The region with these fields, if the labels are known and the lines in order. -/
def checkedRegion (members : Members) (start finish : Int)
    (kindLabel confidenceLabel description : String) : Except RegionFault Region := do
  let kind ← requiredLabel .kind kindLabel Structure.ofLabel? (Structure.all.map (·.label))
  let confidence ← requiredLabel .confidence confidenceLabel Confidence.ofLabel?
    (Confidence.all.map (·.label))
  if finish < start then .error (.reversed start finish)
  return {
    start, finish, kind, confidence, description
    machine := (objectMember? members "vm_components").bind machine?
    entryPoint := (objectMember? members "debugging_entry_point").bind entryPoint? }

/-- One region (`_parse_region`). -/
def parseRegion (value : Value) : Except RegionFault Region := do
  let .object members := value | .error .notObject
  let start ← requiredLine members .first
  let finish ← requiredLine members .last
  let kindLabel ← requiredText members .kind
  let confidenceLabel ← requiredText members .confidence
  let description ← requiredText members .description
  checkedRegion members start finish kindLabel confidenceLabel description

/-- The regions, from the one with number `index` on. -/
def parseRegions (index : Nat) : List Value → Except Rejection (List Region)
  | [] => .ok []
  | value :: values =>
    match parseRegion value with
    | .error fault => .error (.region index fault)
    | .ok region => (parseRegions (index + 1) values).map (region :: ·)

/-- The summary (`_parse_summary`). -/
def parseSummary : Option Value → Except Rejection Summary
  | some (.string text) => .ok (.plain text)
  | some (.object members) =>
    match textMember? members "overall_description",
        textMember? members "debugging_recommendation" with
    | some overall, some recommendation => .ok (.advised overall recommendation)
    | _, _ => .error .incompleteSummary
  | _ => .error .missingSummary

/-- The result that a decoded response stands for. -/
def parseValue : Value → Except Rejection Result
  | .object members => do
    let summary ← parseSummary (get? members "summary")
    let some (.array values) := get? members "regions" | .error .missingRegions
    let regions ← parseRegions 0 values
    return {
      summary, regions
      bytecode := (objectMember? members "global_bytecode").map bytecode }
  | _ => .error .notObject

/-- The result that a response stands for (`parse_detection_result`). -/
def parse (runtime : Runtime) (response : String) : Except Rejection Result :=
  let text := stripFence response.toList
  match decode runtime text with
  | .error stop => .error (.ofStop text stop)
  | .ok value => parseValue value

end VmScan.Detection
