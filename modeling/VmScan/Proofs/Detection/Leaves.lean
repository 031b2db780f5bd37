import VmScan.Proofs.Detection.Enrichment
import VmScan.Proofs.Json.Addresses

/-!
# The optional leaves of a response

Each optional leaf of a response is read on its own, and goes into a field of its own. Three kinds
of leaf do more: the line of a part, without which there is no such part, and the confidence of a
role, without which the role is not identified. A machine is there while one of its roles is.

* `Field` — the member that holds a leaf, and what a value there says about the part.
* `BytecodeLeaf`, `RoleLeaf`, `LoopEntryLeaf`, `BreakpointLeaf` — the leaves with a field alone.
* `BuiltAt` — a part that is read with its line apart.
* `LineEffect` — what a value for the line of a part does to the part.
* `ConfidenceEffect` — what a value for the confidence of a role does to the machine.
* `MachineLeaf`, `EntryPointLeaf` — all leaves of a machine and of the single entry point, with the
  effect of a value there.

Results:
* `bytecode_replaced`, `roleVariable?_replaced`, `loopEntry?_replaced`, `breakpoint?_replaced`: the
  parts of a response with another value at one of their leaves.
* `MachineLeaf.effect`, `EntryPointLeaf.effect`: a whole machine, and the single entry point.
-/

namespace VmScan.Detection

open VmScan.Json

/-! ## Leaves with a field alone -/

/-- A member that holds a leaf, and the part with what a value there says. -/
structure Field (α : Type) where
  member : String
  put : Value → α → α

/-- The leaves of the shared bytecode. -/
inductive BytecodeLeaf where
  | name
  | definitionLine
  | sourceLine
  | sourceColumn
  | layout
  | localName
  | transform
  | structureDescription
  | description
  deriving DecidableEq, Repr

/-- The field of the leaf. -/
def BytecodeLeaf.field : BytecodeLeaf → Field Bytecode
  | .name => ⟨"variable_name", fun new held => { held with name := text? new }⟩
  | .definitionLine =>
    ⟨"definition_line", fun new held => { held with definitionLine := wholeNumber? new }⟩
  | .sourceLine => ⟨"source_line", fun new held => { held with sourceLine := wholeNumber? new }⟩
  | .sourceColumn =>
    ⟨"source_column", fun new held => { held with sourceColumn := wholeNumber? new }⟩
  | .layout =>
    ⟨"pattern_type", fun new held =>
      { held with layout := (text? new).bind BytecodeLayout.ofLabel? }⟩
  | .localName => ⟨"local_bytecode_var", fun new held => { held with localName := text? new }⟩
  | .transform => ⟨"transform_expression", fun new held => { held with transform := text? new }⟩
  | .structureDescription =>
    ⟨"structure_description", fun new held => { held with structureDescription := text? new }⟩
  | .description =>
    ⟨"description", fun new held => { held with description := (text? new).getD "" }⟩

/-- The leaves of a role, its confidence apart. -/
inductive RoleLeaf where
  | name
  | line
  | sourceLine
  | sourceColumn
  | reasoning
  deriving DecidableEq, Repr

/-- The field of the leaf. -/
def RoleLeaf.field : RoleLeaf → Field RoleVariable
  | .name => ⟨"variable_name", fun new held => { held with name := text? new }⟩
  | .line => ⟨"line_number", fun new held => { held with line := wholeNumber? new }⟩
  | .sourceLine => ⟨"source_line", fun new held => { held with sourceLine := wholeNumber? new }⟩
  | .sourceColumn =>
    ⟨"source_column", fun new held => { held with sourceColumn := wholeNumber? new }⟩
  | .reasoning => ⟨"reasoning", fun new held => { held with reasoning := (text? new).getD "" }⟩

/-- The leaves of the entry of the loop, its line apart. -/
inductive LoopEntryLeaf where
  | sourceLine
  | sourceColumn
  | description
  deriving DecidableEq, Repr

/-- The field of the leaf. -/
def LoopEntryLeaf.field : LoopEntryLeaf → Field LoopEntry
  | .sourceLine => ⟨"source_line", fun new held => { held with sourceLine := wholeNumber? new }⟩
  | .sourceColumn =>
    ⟨"source_column", fun new held => { held with sourceColumn := wholeNumber? new }⟩
  | .description =>
    ⟨"description", fun new held => { held with description := (text? new).getD "" }⟩

/-- The leaves of the statement that fetches the opcode, its line apart. -/
inductive BreakpointLeaf where
  | sourceLine
  | sourceColumn
  | opcodeRead
  | description
  deriving DecidableEq, Repr

/-- The field of the leaf. -/
def BreakpointLeaf.field : BreakpointLeaf → Field Breakpoint
  | .sourceLine => ⟨"source_line", fun new held => { held with sourceLine := wholeNumber? new }⟩
  | .sourceColumn =>
    ⟨"source_column", fun new held => { held with sourceColumn := wholeNumber? new }⟩
  | .opcodeRead =>
    ⟨"opcode_read_pattern", fun new held => { held with opcodeRead := text? new }⟩
  | .description =>
    ⟨"description", fun new held => { held with description := (text? new).getD "" }⟩

/-! ## Members with another value -/

section Members

variable {members : Members} {name other : String} {new : Value} {change : Value → Value}

/-- The members with another value at the name, if they hold one there. -/
def replaced (members : Members) (name : String) (new : Value) : Members :=
  modifyMember name (fun _ => new) members

theorem get?_replaced (h : (get? members name).isSome) :
    get? (replaced members name new) name = some new := by
  obtain ⟨old, hold⟩ := Option.isSome_iff_exists.mp h
  rw [replaced, get?_modifyMember, hold]
  rfl

theorem get?_replaced_of_ne (h : other ≠ name) :
    get? (replaced members name new) other = get? members other :=
  get?_modifyMember_of_ne h

theorem intMember?_replaced (h : (get? members name).isSome) :
    intMember? (replaced members name new) name = wholeNumber? new := by
  rw [intMember?, get?_replaced h, Option.bind_some]

theorem textMember?_replaced (h : (get? members name).isSome) :
    textMember? (replaced members name new) name = text? new := by
  rw [textMember?, get?_replaced h, Option.bind_some]

theorem intMember?_replaced_of_ne (h : other ≠ name) :
    intMember? (replaced members name new) other = intMember? members other := by
  rw [intMember?, get?_replaced_of_ne h, intMember?]

theorem objectMember?_eq_some_iff (members : Members) (name : String) (inner : Members) :
    objectMember? members name = some inner ↔ get? members name = some (.object inner) := by
  unfold objectMember?
  cases get? members name with
  | none => exact iff_of_false nofun nofun
  | some value =>
    cases value with
    | object other =>
      exact ⟨fun h => by rw [← Option.some.inj h], fun h => by cases h; rfl⟩
    | _ => exact iff_of_false nofun nofun

theorem textMember?_replaced_of_ne (h : other ≠ name) :
    textMember? (replaced members name new) other = textMember? members other := by
  rw [textMember?, get?_replaced_of_ne h, textMember?]

end Members

/-! ## Parts with another value at a leaf -/

section Parts

variable {members : Members} {new : Value}

/-- **Another value at a leaf of the shared bytecode changes the field of the leaf.** -/
theorem bytecode_replaced (leaf : BytecodeLeaf) (h : (get? members leaf.field.member).isSome) :
    bytecode (replaced members leaf.field.member new) = leaf.field.put new (bytecode members) := by
  cases leaf <;> simp only [BytecodeLeaf.field] at h ⊢ <;>
    simp (disch := decide) only [bytecode, textMember, intMember?_replaced h,
      textMember?_replaced h, intMember?_replaced_of_ne, textMember?_replaced_of_ne]

/-- The variable that an object describes, with the given confidence. -/
def roleWith (members : Members) (confidence : Confidence) : RoleVariable where
  name := textMember? members "variable_name"
  line := intMember? members "line_number"
  sourceLine := intMember? members "source_line"
  sourceColumn := intMember? members "source_column"
  confidence := confidence
  reasoning := textMember members "reasoning"

/-- The entry of the loop that an object describes, with the given line. -/
def loopEntryAt (members : Members) (line : Int) : LoopEntry where
  line := line
  sourceLine := intMember? members "source_line"
  sourceColumn := intMember? members "source_column"
  description := textMember members "description"

/-- The statement that an object describes, with the given line. -/
def breakpointAt (members : Members) (line : Int) : Breakpoint where
  line := line
  sourceLine := intMember? members "source_line"
  sourceColumn := intMember? members "source_column"
  opcodeRead := textMember? members "opcode_read_pattern"
  description := textMember members "description"

/-- The entry point that an object describes, with the given line. -/
def entryPointAt (members : Members) (line : Int) : EntryPoint where
  line := line
  description := textMember members "description"

/-- The confidence that a value names. -/
def confidence? (value : Value) : Option Confidence :=
  (text? value).bind Confidence.ofLabel?

theorem confidence?_eq_some_iff (value : Value) (confidence : Confidence) :
    confidence? value = some confidence ↔ value = .string confidence.label := by
  cases value with
  | string label =>
    rw [Value.string.injEq]
    exact (Confidence.ofLabel?_eq_some_iff label confidence).trans eq_comm
  | _ => exact iff_of_false nofun nofun

theorem roleVariable?_eq (members : Members) :
    roleVariable? members
      = ((get? members "confidence").bind confidence?).map (roleWith members) := by
  have hconfidence : (textMember? members "confidence").bind Confidence.ofLabel?
      = (get? members "confidence").bind confidence? := Option.bind_assoc ..
  rw [roleVariable?, hconfidence]
  cases (get? members "confidence").bind confidence? <;> rfl

/-- The part is read with its line apart, and is not there without one. -/
def BuiltAt {α : Type} (read : Members → Option α) (build : Members → Int → α) : Prop :=
  ∀ members, read members = (intMember? members "line_number").map (build members)

theorem builtAt_loopEntry : BuiltAt loopEntry? loopEntryAt := fun members => by
  unfold loopEntry?
  cases intMember? members "line_number" <;> rfl

theorem builtAt_breakpoint : BuiltAt breakpoint? breakpointAt := fun members => by
  unfold breakpoint?
  cases intMember? members "line_number" <;> rfl

theorem builtAt_entryPoint : BuiltAt entryPoint? entryPointAt := fun members => by
  unfold entryPoint?
  cases intMember? members "line_number" <;> rfl

/-- Another value beside the line of a part changes the part as it does for any line. -/
theorem BuiltAt.replaced_eq {α : Type} {read : Members → Option α} {build : Members → Int → α}
    (h : BuiltAt read build) {name : String} (hname : "line_number" ≠ name) {put : α → α}
    (hput : ∀ line, build (replaced members name new) line = put (build members line)) :
    read (replaced members name new) = (read members).map put := by
  rw [h, h, Option.map_map, intMember?_replaced_of_ne hname]
  exact congrArg (Option.map · _) (funext hput)

/-- **Another value at a leaf of a role changes the field of the leaf**, where the role is read. -/
theorem roleVariable?_replaced (leaf : RoleLeaf) (h : (get? members leaf.field.member).isSome) :
    roleVariable? (replaced members leaf.field.member new)
      = (roleVariable? members).map (leaf.field.put new) := by
  have hconfidence : get? (replaced members leaf.field.member new) "confidence"
      = get? members "confidence" := get?_replaced_of_ne (by cases leaf <;> decide)
  rw [roleVariable?_eq, roleVariable?_eq, Option.map_map, hconfidence]
  refine congrArg (Option.map · _) (funext fun confidence => ?_)
  cases leaf <;> simp only [RoleLeaf.field] at h ⊢ <;>
    simp (disch := decide) only [Function.comp_apply, roleWith, textMember, intMember?_replaced h,
      textMember?_replaced h, intMember?_replaced_of_ne, textMember?_replaced_of_ne]

theorem loopEntry?_replaced (leaf : LoopEntryLeaf) (h : (get? members leaf.field.member).isSome) :
    loopEntry? (replaced members leaf.field.member new)
      = ( loopEntry? members).map (leaf.field.put new) := by
  refine builtAt_loopEntry.replaced_eq (by cases leaf <;> decide) fun line => ?_
  cases leaf <;> simp only [LoopEntryLeaf.field] at h ⊢ <;>
    simp (disch := decide) only [loopEntryAt, textMember, intMember?_replaced h,
      textMember?_replaced h, intMember?_replaced_of_ne, textMember?_replaced_of_ne]

theorem breakpoint?_replaced (leaf : BreakpointLeaf)
    (h : (get? members leaf.field.member).isSome) :
    breakpoint? (replaced members leaf.field.member new)
      = (breakpoint? members).map (leaf.field.put new) := by
  refine builtAt_breakpoint.replaced_eq (by cases leaf <;> decide) fun line => ?_
  cases leaf <;> simp only [BreakpointLeaf.field] at h ⊢ <;>
    simp (disch := decide) only [breakpointAt, textMember, intMember?_replaced h,
      textMember?_replaced h, intMember?_replaced_of_ne, textMember?_replaced_of_ne]

end Parts

/-! ## Lines of parts -/

section Lines

variable {α : Type} {setLine : Int → α → α} {members : Members} {new : Value}

/-- What a new value for the line of a part does to the part, `build n` being the part that the
other leaves describe with the line `n`: a value that is no whole number removes it, another one
moves it, or brings out a part that was missing for want of a line. -/
inductive LineEffect (build : Int → α) (setLine : Int → α → α) (new : Value) :
    Option α → Option α → Prop where
  | removed {before : Option α} (h : wholeNumber? new = none) :
      LineEffect build setLine new before none
  | moved {part : α} {n : Int} (h : wholeNumber? new = some n) :
      LineEffect build setLine new (some part) (some (setLine n part))
  | found {n : Int} (h : wholeNumber? new = some n) :
      LineEffect build setLine new none (some (build n))

/-- A part that is read with its line apart is removed, moved or found. -/
theorem BuiltAt.lineEffect {read : Members → Option α} {build : Members → Int → α}
    (h : BuiltAt read build) (hheld : (get? members "line_number").isSome)
    (hsame : build (replaced members "line_number" new) = build members)
    (hset : ∀ m n, setLine n (build members m) = build members n) :
    LineEffect (build members) setLine new (read members)
      (read (replaced members "line_number" new)) := by
  rw [h, h, hsame, intMember?_replaced hheld]
  cases hnew : wholeNumber? new with
  | none => exact .removed hnew
  | some n =>
    cases intMember? members "line_number" with
    | none => exact .found hnew
    | some m =>
      rw [Option.map_some, Option.map_some, ← hset m n]
      exact .moved hnew

theorem loopEntry?_line (h : (get? members "line_number").isSome) :
    LineEffect (loopEntryAt members) (fun n entry => { entry with line := n }) new
      ( loopEntry? members) ( loopEntry? (replaced members "line_number" new)) := by
  refine builtAt_loopEntry.lineEffect h (funext fun line => ?_) fun _ _ => rfl
  simp (disch := decide) only [loopEntryAt, textMember, intMember?_replaced_of_ne,
    textMember?_replaced_of_ne]

theorem breakpoint?_line (h : (get? members "line_number").isSome) :
    LineEffect (breakpointAt members) (fun n statement => { statement with line := n }) new
      (breakpoint? members) (breakpoint? (replaced members "line_number" new)) := by
  refine builtAt_breakpoint.lineEffect h (funext fun line => ?_) fun _ _ => rfl
  simp (disch := decide) only [breakpointAt, textMember, intMember?_replaced_of_ne,
    textMember?_replaced_of_ne]

end Lines

/-! ## The single entry point -/

/-- The leaves of the single entry point. -/
inductive EntryPointLeaf where
  | line
  | description
  deriving DecidableEq, Repr

/-- The member that holds the leaf. -/
def EntryPointLeaf.member : EntryPointLeaf → String
  | .line => "line_number"
  | .description => "description"

/-- What a new value at the leaf does to the entry point with these members. -/
def EntryPointLeaf.Effect (members : Members) (new : Value) (before after : Option EntryPoint) :
    EntryPointLeaf → Prop
  | .line =>
    LineEffect (entryPointAt members) (fun n entry => { entry with line := n }) new before after
  | .description =>
    after = before.map fun entry => { entry with description := (text? new).getD "" }

theorem EntryPointLeaf.effect {members : Members} (leaf : EntryPointLeaf) (new : Value)
    (h : (get? members leaf.member).isSome) :
    leaf.Effect members new (entryPoint? members)
      (entryPoint? (replaced members leaf.member new)) := by
  cases leaf with
  | line =>
    refine builtAt_entryPoint.lineEffect h (funext fun line => ?_) fun _ _ => rfl
    simp (disch := decide) only [entryPointAt, textMember, textMember?_replaced_of_ne]
  | description =>
    refine builtAt_entryPoint.replaced_eq (by decide) fun line => ?_
    rw [EntryPointLeaf.member] at h ⊢
    simp only [entryPointAt, textMember, textMember?_replaced h]

/-! ## Roles of a machine -/

/-- The four roles in which a machine holds a variable. -/
inductive Role where
  | instructionPointer
  | stackPointer
  | virtualStack
  | bytecodeArray
  deriving DecidableEq, Repr

/-- The member that holds the role. -/
def Role.member : Role → String
  | .instructionPointer => "instruction_pointer"
  | .stackPointer => "stack_pointer"
  | .virtualStack => "virtual_stack"
  | .bytecodeArray => "bytecode_array"

/-- The variable in the role. -/
def Machine.role (machine : Machine) : Role → RoleVariable
  | .instructionPointer => machine.instructionPointer
  | .stackPointer => machine.stackPointer
  | .virtualStack => machine.virtualStack
  | .bytecodeArray => machine.bytecodeArray

/-- The machine with the variable in the role changed. -/
def Machine.mapRole (machine : Machine) (change : RoleVariable → RoleVariable) : Role → Machine
  | .instructionPointer => { machine with instructionPointer := change machine.instructionPointer }
  | .stackPointer => { machine with stackPointer := change machine.stackPointer }
  | .virtualStack => { machine with virtualStack := change machine.virtualStack }
  | .bytecodeArray => { machine with bytecodeArray := change machine.bytecodeArray }

/-- The parts of a machine name a known confidence for the role. -/
def Recognised (parts : Members) (role : Role) : Prop :=
  ∃ members confidence, get? parts role.member = some (.object members) ∧
    HasText members "confidence" (Confidence.label confidence)

/-- The variable in a role, if it is read. -/
def role? (parts : Members) (role : Role) : Option RoleVariable :=
  (objectMember? parts role.member).bind roleVariable?

/-- The machine with these parts, whether one of its roles is read or not. -/
def machineOf (parts : Members) : Machine where
  instructionPointer := (role? parts .instructionPointer).getD {}
  stackPointer := (role? parts .stackPointer).getD {}
  virtualStack := (role? parts .virtualStack).getD {}
  bytecodeArray := (role? parts .bytecodeArray).getD {}
  loopEntry := (objectMember? parts "loop_entry").bind loopEntry?
  breakpoint := (objectMember? parts "breakpoint").bind breakpoint?

/-- The machine with these parts, none of its roles read. -/
def unidentified (parts : Members) : Machine where
  instructionPointer := {}
  stackPointer := {}
  virtualStack := {}
  bytecodeArray := {}
  loopEntry := (objectMember? parts "loop_entry").bind loopEntry?
  breakpoint := (objectMember? parts "breakpoint").bind breakpoint?

section Roles

variable {parts others : Members} {role : Role}

theorem machine?_eq (parts : Members) :
    machine? parts
      = if (role? parts .instructionPointer).isNone && (role? parts .stackPointer).isNone
          && (role? parts .virtualStack).isNone && (role? parts .bytecodeArray).isNone then none
        else some (machineOf parts) := rfl

theorem machine?_eq_none (h : ∀ role, role? parts role = none) : machine? parts = none := by
  rw [machine?_eq]
  simp only [h, Option.isNone_none, Bool.and_self, if_true]

theorem machine?_eq_some (h : (role? parts role).isSome) :
    machine? parts = some (machineOf parts) := by
  rw [Option.isSome_iff_ne_none] at h
  rw [machine?_eq, if_neg]
  simp only [Bool.and_eq_true, Option.isNone_iff_eq_none]
  rintro ⟨⟨⟨hpointer, hstack⟩, hvirtual⟩, hbytecode⟩
  cases role <;> exact h ‹_›

/-- A machine is as another one whose roles, entry and statement are read the same. -/
theorem machine?_congr (hroles : ∀ role, role? others role = role? parts role)
    (hentry : objectMember? others "loop_entry" = objectMember? parts "loop_entry")
    (hstatement : objectMember? others "breakpoint" = objectMember? parts "breakpoint") :
    machine? others = machine? parts := by
  simp only [machine?_eq, machineOf, hroles, hentry, hstatement]

theorem recognised_iff : Recognised parts role ↔ (role? parts role).isSome := by
  rw [Option.isSome_iff_exists]
  constructor
  · rintro ⟨members, confidence, hmembers, htext⟩
    refine ⟨roleWith members confidence, ?_⟩
    rw [role?, (objectMember?_eq_some_iff parts role.member members).mpr hmembers,
      Option.bind_some, roleVariable?_eq, htext, Option.bind_some,
      (confidence?_eq_some_iff _ confidence).mpr rfl, Option.map_some]
  · rintro ⟨held, hrole⟩
    obtain ⟨members, hmembers, hread⟩ := Option.bind_eq_some_iff.mp hrole
    rw [roleVariable?_eq] at hread
    obtain ⟨confidence, hconfidence, -⟩ := Option.map_eq_some_iff.mp hread
    obtain ⟨value, hvalue, hlabel⟩ := Option.bind_eq_some_iff.mp hconfidence
    rw [(confidence?_eq_some_iff value confidence).mp hlabel] at hvalue
    exact ⟨members, confidence, (objectMember?_eq_some_iff parts role.member members).mp hmembers,
      hvalue⟩

end Roles

/-! ## Leaves of a machine -/

/-- The objects differ only in one of their parts, which is an object in both, and these only at
one of their members, which holds the new value in the other one. -/
structure PartReplaced (outer others : Members) (part member : String) (new : Value)
    (members : Members) : Prop where
  before : objectMember? outer part = some members
  held : (get? members member).isSome
  after : objectMember? others part = some (replaced members member new)
  other : ∀ name, name ≠ part → get? others name = get? outer name

/-- Replacing a leaf of a part replaces that in the part, and nothing in the other parts. -/
theorem exists_partReplaced {outer : Members} {part member : String} {old : Value}
    (h : (Value.object outer).at? [.member part, .member member] = some old) (new : Value) :
    ∃ others members,
      (Value.object outer).replaceAt [.member part, .member member] new = .object others ∧
        PartReplaced outer others part member new members := by
  obtain ⟨_, inner, hsame, hinner, hmember⟩ := exists_of_at?_member h
  obtain ⟨members, value, rfl, hvalue, -⟩ := exists_of_at?_member hmember
  rw [← Value.object.inj hsame] at hinner
  refine ⟨_, members, rfl, (objectMember?_eq_some_iff outer part members).mpr hinner, ?_, ?_, ?_⟩
  · rw [hvalue]
    rfl
  · rw [objectMember?, get?_modifyMember, hinner]
    rfl
  · exact fun name hname => get?_modifyMember_of_ne hname

/-- What a new value for the confidence of a role does to the machine with these parts. -/
inductive ConfidenceEffect (parts : Members) (role : Role) (new : Value) :
    Option Machine → Option Machine → Prop where
  /-- Another known confidence takes the place of a known one. -/
  | changed {machine : Machine} {confidence : Confidence} (h : Recognised parts role)
      (hnew : confidence? new = some confidence) :
      ConfidenceEffect parts role new (some machine)
        (some (machine.mapRole (fun held => { held with confidence }) role))
  /-- Without a known one the role is not identified, while another role is. -/
  | lost {machine : Machine} {other : Role} (hnew : confidence? new = none)
      (hother : other ≠ role) (h : Recognised parts other) :
      ConfidenceEffect parts role new (some machine) (some (machine.mapRole (fun _ => {}) role))
  /-- Without a known one, and with no other role, there is no machine. -/
  | dropped {before : Option Machine} (hnew : confidence? new = none)
      (h : ∀ other, other ≠ role → ¬ Recognised parts other) :
      ConfidenceEffect parts role new before none
  /-- With a known one the role is identified beside another, as its own leaves describe it. -/
  | found {machine : Machine} {other : Role} {members : Members} {confidence : Confidence}
      (hrole : ¬ Recognised parts role) (hmembers : objectMember? parts role.member = some members)
      (hnew : confidence? new = some confidence) (hother : other ≠ role)
      (h : Recognised parts other) :
      ConfidenceEffect parts role new (some machine)
        (some (machine.mapRole (fun _ => roleWith members confidence) role))
  /-- With a known one and no other role, there is a machine with this role alone; the entry of the
  loop and the statement that fetches the opcode are those of the parts. -/
  | attached {members : Members} {confidence : Confidence}
      (h : ∀ other, ¬ Recognised parts other)
      (hmembers : objectMember? parts role.member = some members)
      (hnew : confidence? new = some confidence) :
      ConfidenceEffect parts role new none
        (some ((unidentified parts).mapRole (fun _ => roleWith members confidence) role))

/-- The leaves of a machine. -/
inductive MachineLeaf where
  | roleField (role : Role) (leaf : RoleLeaf)
  | confidence (role : Role)
  | loopEntryField (leaf : LoopEntryLeaf)
  | loopEntryLine
  | breakpointField (leaf : BreakpointLeaf)
  | breakpointLine
  deriving DecidableEq, Repr

/-- The part that the leaf belongs to. -/
def MachineLeaf.part : MachineLeaf → String
  | .roleField role _ | .confidence role => role.member
  | .loopEntryField _ | .loopEntryLine => "loop_entry"
  | .breakpointField _ | .breakpointLine => "breakpoint"

/-- The member of the part that holds the leaf. -/
def MachineLeaf.member : MachineLeaf → String
  | .roleField _ leaf => leaf.field.member
  | .confidence _ => "confidence"
  | .loopEntryField leaf => leaf.field.member
  | .breakpointField leaf => leaf.field.member
  | .loopEntryLine | .breakpointLine => "line_number"

/-- What a new value at the leaf does to the machine with these parts. -/
def MachineLeaf.Effect (parts : Members) (new : Value) (before after : Option Machine) :
    MachineLeaf → Prop
  | .roleField role leaf =>
    (Recognised parts role → after = before.map (·.mapRole (leaf.field.put new) role)) ∧
      (¬ Recognised parts role → after = before)
  | .confidence role => ConfidenceEffect parts role new before after
  | .loopEntryField leaf =>
    after = before.map fun machine =>
      { machine with loopEntry := machine.loopEntry.map (leaf.field.put new) }
  | .loopEntryLine =>
    ∃ members, objectMember? parts "loop_entry" = some members ∧
      Option.Rel (fun machine other => ∃ entry, other = { machine with loopEntry := entry } ∧
        LineEffect (loopEntryAt members) (fun n entry => { entry with line := n }) new
          machine.loopEntry entry) before after
  | .breakpointField leaf =>
    after = before.map fun machine =>
      { machine with breakpoint := machine.breakpoint.map (leaf.field.put new) }
  | .breakpointLine =>
    ∃ members, objectMember? parts "breakpoint" = some members ∧
      Option.Rel (fun machine other =>
        ∃ statement, other = { machine with breakpoint := statement } ∧
          LineEffect (breakpointAt members) (fun n statement => { statement with line := n }) new
            machine.breakpoint statement) before after

section Machines

variable {parts others members : Members} {part member name : String} {new : Value} {role : Role}

theorem PartReplaced.objectMember?_of_ne (h : PartReplaced parts others part member new members)
    (hname : name ≠ part) : objectMember? others name = objectMember? parts name := by
  rw [objectMember?, h.other name hname, objectMember?]

theorem PartReplaced.role?_of_ne (h : PartReplaced parts others part member new members)
    (hpart : role.member ≠ part) : role? others role = role? parts role := by
  rw [role?, h.objectMember?_of_ne hpart, role?]

/-- A machine whose roles are read the same is there, or not, as the other one is. -/
theorem machine?_rel {related : Machine → Machine → Prop}
    (hroles : ∀ role, role? others role = role? parts role)
    (h : related (machineOf parts) (machineOf others)) :
    Option.Rel related (machine? parts) (machine? others) := by
  by_cases hread : ∃ role, (role? parts role).isSome
  · obtain ⟨role, hrole⟩ := hread
    rw [machine?_eq_some hrole, machine?_eq_some (by rwa [hroles role])]
    exact .some h
  · have hnone : ∀ role, role? parts role = none := fun role =>
      Option.not_isSome_iff_eq_none.mp fun hrole => hread ⟨role, hrole⟩
    rw [machine?_eq_none hnone, machine?_eq_none fun role => (hroles role).trans (hnone role)]
    exact .none

theorem Role.member_ne {role other : Role} (h : other ≠ role) :
    other.member ≠ role.member := by
  cases role <;> cases other <;> first | exact absurd rfl h | decide

/-- Only the role changes with a leaf of it. -/
theorem PartReplaced.machineOf_role
    (h : PartReplaced parts others role.member member new members)
    {change : RoleVariable → RoleVariable}
    (hchange : (role? others role).getD {} = change ((role? parts role).getD {})) :
    machineOf others = (machineOf parts).mapRole change role := by
  have hother : ∀ other, other ≠ role → role? others other = role? parts other := fun other hne =>
    h.role?_of_ne (Role.member_ne hne)
  have hentry : objectMember? others "loop_entry" = objectMember? parts "loop_entry" :=
    h.objectMember?_of_ne (by cases role <;> decide)
  have hstatement : objectMember? others "breakpoint" = objectMember? parts "breakpoint" :=
    h.objectMember?_of_ne (by cases role <;> decide)
  cases role <;>
    simp (disch := decide) only [machineOf, Machine.mapRole, hother, hchange, hentry, hstatement]

/-- **A field of a role that is read changes alone**; of one that is not read, nothing does. -/
theorem roleField_effect (leaf : RoleLeaf)
    (h : PartReplaced parts others role.member leaf.field.member new members) :
    (MachineLeaf.roleField role leaf).Effect parts new (machine? parts) (machine? others) := by
  have hread : role? others role = (role? parts role).map (leaf.field.put new) := by
    rw [role?, h.after, role?, h.before]
    exact roleVariable?_replaced leaf h.held
  constructor
  · intro hrecognised
    rw [recognised_iff] at hrecognised
    obtain ⟨held, hheld⟩ := Option.isSome_iff_exists.mp hrecognised
    have hother : (role? others role).isSome := by rw [hread, hheld]; rfl
    rw [machine?_eq_some hrecognised, machine?_eq_some hother, Option.map_some,
      h.machineOf_role (by rw [hread, hheld]; rfl)]
  · intro hidle
    rw [recognised_iff, Option.not_isSome_iff_eq_none] at hidle
    refine machine?_congr (fun other => ?_) (h.objectMember?_of_ne ?_) (h.objectMember?_of_ne ?_)
    · by_cases hsame : other = role
      · rw [hsame, hread, hidle, Option.map_none]
      · exact h.role?_of_ne (Role.member_ne hsame)
    · cases role <;> decide
    · cases role <;> decide

/-- What is read of a role whose confidence is replaced. -/
theorem PartReplaced.role?_confidence
    (h : PartReplaced parts others role.member "confidence" new members) :
    role? others role = (confidence? new).map (roleWith members) := by
  have hsame : roleWith (replaced members "confidence" new) = roleWith members := by
    funext confidence
    simp (disch := decide) only [roleWith, textMember, intMember?_replaced_of_ne,
      textMember?_replaced_of_ne]
  rw [role?, h.after, Option.bind_some, roleVariable?_eq, get?_replaced h.held, hsame,
    Option.bind_some]

theorem exists_roleWith (hmembers : objectMember? parts role.member = some members)
    (h : Recognised parts role) :
    ∃ confidence, role? parts role = some (roleWith members confidence) := by
  obtain ⟨held, hheld⟩ := Option.isSome_iff_exists.mp (recognised_iff.mp h)
  rw [role?, hmembers, Option.bind_some, roleVariable?_eq] at hheld ⊢
  obtain ⟨confidence, hconfidence, -⟩ := Option.map_eq_some_iff.mp hheld
  exact ⟨confidence, by rw [hconfidence]; rfl⟩

theorem role?_eq_none (h : ¬ Recognised parts role) : role? parts role = none := by
  rwa [recognised_iff, Option.not_isSome_iff_eq_none] at h

theorem machineOf_eq_unidentified (h : ∀ role, ¬ Recognised parts role) :
    machineOf parts = unidentified parts := by
  simp only [machineOf, role?_eq_none (h _), Option.getD_none, unidentified]

/-- Without a known confidence a role is lost, and the machine with the last of them. -/
theorem confidence_unknown (h : PartReplaced parts others role.member "confidence" new members)
    (hnew : confidence? new = none) :
    ConfidenceEffect parts role new (machine? parts) (machine? others) := by
  have hafter : role? others role = none := by rw [h.role?_confidence, hnew, Option.map_none]
  by_cases hbeside : ∃ other, other ≠ role ∧ Recognised parts other
  · obtain ⟨other, hne, hrecognised⟩ := hbeside
    have hread := recognised_iff.mp hrecognised
    have hreadAfter : (role? others other).isSome := by rwa [h.role?_of_ne (Role.member_ne hne)]
    have hmachine : machineOf others = (machineOf parts).mapRole (fun _ => {}) role :=
      h.machineOf_role (by rw [hafter]; rfl)
    rw [machine?_eq_some hread, machine?_eq_some hreadAfter, hmachine]
    exact .lost hnew hne hrecognised
  · have hidle : ∀ other, other ≠ role → ¬ Recognised parts other := fun other hne hread =>
      hbeside ⟨other, hne, hread⟩
    have hnone : machine? others = none := machine?_eq_none fun other => by
      by_cases hsame : other = role
      · rw [hsame, hafter]
      · rw [h.role?_of_ne (Role.member_ne hsame), role?_eq_none (hidle other hsame)]
    rw [hnone]
    exact .dropped hnew hidle

/-- With a known confidence a role is read, and there is a machine. -/
theorem confidence_known (h : PartReplaced parts others role.member "confidence" new members)
    {confidence : Confidence} (hnew : confidence? new = some confidence) :
    ConfidenceEffect parts role new (machine? parts) (machine? others) := by
  have hafter : role? others role = some (roleWith members confidence) := by
    rw [h.role?_confidence, hnew, Option.map_some]
  have hmachineAfter : machine? others = some (machineOf others) :=
    machine?_eq_some (by rw [hafter]; rfl)
  rw [hmachineAfter]
  by_cases hrole : Recognised parts role
  · obtain ⟨old, hbefore⟩ := exists_roleWith h.before hrole
    have hmachine : machineOf others
        = (machineOf parts).mapRole (fun held => { held with confidence }) role :=
      h.machineOf_role (by rw [hbefore, hafter]; rfl)
    rw [machine?_eq_some (recognised_iff.mp hrole), hmachine]
    exact .changed hrole hnew
  by_cases hbeside : ∃ other, other ≠ role ∧ Recognised parts other
  · obtain ⟨other, hne, hrecognised⟩ := hbeside
    have hmachine : machineOf others
        = (machineOf parts).mapRole (fun _ => roleWith members confidence) role :=
      h.machineOf_role (by rw [hafter]; rfl)
    rw [machine?_eq_some (recognised_iff.mp hrecognised), hmachine]
    exact .found hrole h.before hnew hne hrecognised
  · have hidle : ∀ other, ¬ Recognised parts other := fun other hread => by
      by_cases hsame : other = role
      · exact hrole (hsame ▸ hread)
      · exact hbeside ⟨other, hsame, hread⟩
    have hmachine : machineOf others
        = (unidentified parts).mapRole (fun _ => roleWith members confidence) role := by
      rw [← machineOf_eq_unidentified hidle]
      exact h.machineOf_role (by rw [hafter]; rfl)
    rw [machine?_eq_none fun other => role?_eq_none (hidle other), hmachine]
    exact .attached hidle h.before hnew

theorem eq_map_of_rel {α : Type} {change : α → α} {before after : Option α}
    (h : Option.Rel (fun a b => b = change a) before after) : after = before.map change := by
  cases h with
  | none => rfl
  | some h => rw [h, Option.map_some]

/-- Only the entry of the loop changes with a leaf of it. -/
theorem PartReplaced.machineOf_loopEntry
    (h : PartReplaced parts others "loop_entry" member new members) :
    (∀ role, role? others role = role? parts role) ∧
      (machineOf parts).loopEntry = loopEntry? members ∧
      machineOf others
        = { machineOf parts with loopEntry := loopEntry? (replaced members member new) } := by
  have hroles : ∀ role, role? others role = role? parts role := fun role =>
    h.role?_of_ne (by cases role <;> decide)
  have hstatement : objectMember? others "breakpoint" = objectMember? parts "breakpoint" :=
    h.objectMember?_of_ne (by decide)
  refine ⟨hroles, ?_, ?_⟩
  · rw [machineOf, h.before, Option.bind_some]
  · simp only [machineOf, hroles, hstatement, h.after, Option.bind_some]

/-- Only the statement that fetches the opcode changes with a leaf of it. -/
theorem PartReplaced.machineOf_breakpoint
    (h : PartReplaced parts others "breakpoint" member new members) :
    (∀ role, role? others role = role? parts role) ∧
      (machineOf parts).breakpoint = breakpoint? members ∧
      machineOf others
        = { machineOf parts with breakpoint := breakpoint? (replaced members member new) } := by
  have hroles : ∀ role, role? others role = role? parts role := fun role =>
    h.role?_of_ne (by cases role <;> decide)
  have hentry : objectMember? others "loop_entry" = objectMember? parts "loop_entry" :=
    h.objectMember?_of_ne (by decide)
  refine ⟨hroles, ?_, ?_⟩
  · rw [machineOf, h.before, Option.bind_some]
  · simp only [machineOf, hroles, hentry, h.after, Option.bind_some]

/-- **What a new value at a leaf of a machine does to the machine.** -/
theorem MachineLeaf.effect (leaf : MachineLeaf)
    (h : PartReplaced parts others leaf.part leaf.member new members) :
    leaf.Effect parts new (machine? parts) (machine? others) := by
  cases leaf with
  | roleField role leaf => exact roleField_effect leaf h
  | confidence role =>
    cases hnew : confidence? new with
    | none => exact confidence_unknown h hnew
    | some confidence => exact confidence_known h hnew
  | loopEntryField leaf =>
    obtain ⟨hroles, hbefore, hafter⟩ := h.machineOf_loopEntry
    refine eq_map_of_rel (machine?_rel hroles ?_)
    rw [hafter, hbefore, MachineLeaf.member, loopEntry?_replaced leaf h.held]
  | loopEntryLine =>
    obtain ⟨hroles, hbefore, hafter⟩ := h.machineOf_loopEntry
    refine ⟨members, h.before, machine?_rel hroles ⟨_, hafter, ?_⟩⟩
    rw [hbefore]
    exact loopEntry?_line h.held
  | breakpointField leaf =>
    obtain ⟨hroles, hbefore, hafter⟩ := h.machineOf_breakpoint
    refine eq_map_of_rel (machine?_rel hroles ?_)
    rw [hafter, hbefore, MachineLeaf.member, breakpoint?_replaced leaf h.held]
  | breakpointLine =>
    obtain ⟨hroles, hbefore, hafter⟩ := h.machineOf_breakpoint
    refine ⟨members, h.before, machine?_rel hroles ⟨_, hafter, ?_⟩⟩
    rw [hbefore]
    exact breakpoint?_line h.held

end Machines

end VmScan.Detection
