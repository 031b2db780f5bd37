import VmScan.Proofs.Detection.Leaves

/-!
# Responses with another value at one leaf

A response that is accepted stays accepted, whatever value takes the place of one of its optional
leaves, and the two results differ at most where the leaf is read.

* `Leaf` — an optional leaf of a response, with the way to it.
* `Leaf.Effect` — what a new value at the leaf does to the result.

Results:
* `parseRegion_eq_map`: the optional parts of a region do not decide whether it is taken.
* `parseRegions_eq_ok_iff`, `parseValue_eq_ok_iff`: a result, element by element and part by part.
* `parseValue_replaceAt`: a response with another value at one leaf.
* `not_parseValue_replaceAt_withLoopLine`: a line can bring out the part that it belongs to.
-/

namespace VmScan.Detection

open VmScan.Json

/-! ## Regions -/

/-- The region with the optional parts that the members hold. -/
def Region.withOptional (region : Region) (members : Members) : Region :=
  { region with
    machine := (objectMember? members "vm_components").bind machine?
    entryPoint := (objectMember? members "debugging_entry_point").bind entryPoint? }

section Regions

variable {members others : Members} {region : Region}

theorem checkedRegion_eq_map (members others : Members) (start finish : Int)
    (kindLabel confidenceLabel description : String) :
    checkedRegion others start finish kindLabel confidenceLabel description
      = (checkedRegion members start finish kindLabel confidenceLabel description).map
        (·.withOptional others) := by
  unfold checkedRegion
  cases requiredLabel .kind kindLabel Structure.ofLabel? (Structure.all.map (·.label)) with
  | error fault => rfl
  | ok kind =>
    cases requiredLabel .confidence confidenceLabel Confidence.ofLabel?
      (Confidence.all.map (·.label)) with
    | error fault => rfl
    | ok confidence => by_cases h : finish < start <;> simp only [bind, Except.bind, h] <;> rfl

/-- **The optional parts do not decide whether a region is taken**: with the same required fields,
it is taken with whatever optional parts there are. -/
theorem parseRegion_eq_map (h : FieldsAgree members others) :
    parseRegion (.object others) = (parseRegion (.object members)).map (·.withOptional others) := by
  have hstart : requiredLine members .first = requiredLine others .first :=
    requiredLine_congr h (by decide)
  have hfinish : requiredLine members .last = requiredLine others .last :=
    requiredLine_congr h (by decide)
  have hkind : requiredText members .kind = requiredText others .kind :=
    requiredText_congr (h.present _ (by decide))
  have hconfidence : requiredText members .confidence = requiredText others .confidence :=
    requiredText_congr (h.present _ (by decide))
  have hdescription : requiredText members .description = requiredText others .description :=
    requiredText_congr (h.present _ (by decide))
  unfold parseRegion
  simp only [hstart, hfinish, hkind, hconfidence, hdescription]
  cases requiredLine others .first with
  | error fault => rfl
  | ok start =>
  cases requiredLine others .last with
  | error fault => rfl
  | ok finish =>
  cases requiredText others .kind with
  | error fault => rfl
  | ok kindLabel =>
  cases requiredText others .confidence with
  | error fault => rfl
  | ok confidenceLabel =>
  cases requiredText others .description with
  | error fault => rfl
  | ok description =>
    exact checkedRegion_eq_map members others start finish kindLabel confidenceLabel description

/-- The names of the optional parts of a region. -/
def optionalNames : List String :=
  ["vm_components", "debugging_entry_point"]

theorem agreeAt_of_eq {name : String} (h : get? others name = get? members name) :
    AgreeAt members others name := by
  rw [AgreeAt, h]
  cases get? members name with
  | none => exact .none
  | some value => exact .some (.same value)

/-- Objects that differ in an optional part only agree on their required fields. -/
theorem fieldsAgree_modifyMember {part : String} (hpart : part ∈ optionalNames) (members : Members)
    (change : Value → Value) : FieldsAgree members (modifyMember part change members) := by
  have hrequired : ∀ name ∈ requiredNames, name ∉ optionalNames := by decide
  have holder : ∀ field : LineField, field.olderName ∉ optionalNames := fun field => by
    cases field <;> decide
  constructor
  · exact fun name hname => agreeAt_of_eq (get?_modifyMember_of_ne fun h =>
      hrequired name hname (h ▸ hpart))
  · exact fun field => Or.inr (agreeAt_of_eq (get?_modifyMember_of_ne fun h =>
      holder field (h ▸ hpart)))

/-- A region has the optional parts that its members hold. -/
theorem withOptional_of_parseRegion (h : parseRegion (.object members) = .ok region) :
    region = region.withOptional members := by
  have hagree : FieldsAgree members members :=
    ⟨fun name _ => agreeAt_of_eq rfl, fun field => Or.inr (agreeAt_of_eq rfl)⟩
  have hsame := parseRegion_eq_map hagree
  rw [h] at hsame
  exact Except.ok.inj hsame

end Regions

/-! ## Leaves of a region -/

section RegionLeaves

variable {element old : Value} {region : Region}

/-- A region with another value at a leaf of its machine. -/
theorem parseRegion_machineLeaf (leaf : MachineLeaf)
    (hleaf : element.at? [.member "vm_components", .member leaf.part, .member leaf.member]
      = some old)
    (h : parseRegion element = .ok region) (new : Value) :
    ∃ parts machine, element.at? [.member "vm_components"] = some (.object parts) ∧
      leaf.Effect parts new region.machine machine ∧
      parseRegion (element.replaceAt
        [.member "vm_components", .member leaf.part, .member leaf.member] new)
          = .ok { region with machine } := by
  obtain ⟨members, inner, rfl, hinner, hway⟩ := exists_of_at?_member hleaf
  obtain ⟨parts, _, rfl, -, -⟩ := exists_of_at?_member hway
  obtain ⟨others, held, hreplaced, hpart⟩ := exists_partReplaced hway new
  have hmachine : objectMember? (modifyMember "vm_components"
      (·.replaceAt [.member leaf.part, .member leaf.member] new) members) "vm_components"
        = some others := by
    rw [objectMember?, get?_modifyMember, hinner, Option.map_some, hreplaced]
    rfl
  have hentry : objectMember? (modifyMember "vm_components"
      (·.replaceAt [.member leaf.part, .member leaf.member] new) members) "debugging_entry_point"
        = objectMember? members "debugging_entry_point" := by
    rw [objectMember?, get?_modifyMember_of_ne (by decide), objectMember?]
  refine ⟨parts, machine? others, ?_, ?_, ?_⟩
  · rw [Value.at?, hinner]
    rfl
  · rw [withOptional_of_parseRegion h, Region.withOptional,
      (objectMember?_eq_some_iff members "vm_components" parts).mpr hinner]
    exact leaf.effect hpart
  · rw [Value.replaceAt, parseRegion_eq_map (fieldsAgree_modifyMember (by decide) _ _), h,
      Except.map, Region.withOptional, hmachine, hentry]
    conv => rhs; rw [withOptional_of_parseRegion h]
    rfl

/-- A region with another value at a leaf of its entry point. -/
theorem parseRegion_entryPointLeaf (leaf : EntryPointLeaf)
    (hleaf : element.at? [.member "debugging_entry_point", .member leaf.member] = some old)
    (h : parseRegion element = .ok region) (new : Value) :
    ∃ inner entryPoint, element.at? [.member "debugging_entry_point"] = some (.object inner) ∧
      leaf.Effect inner new region.entryPoint entryPoint ∧
      parseRegion (element.replaceAt [.member "debugging_entry_point", .member leaf.member] new)
        = .ok { region with entryPoint } := by
  obtain ⟨members, _, rfl, -, -⟩ := exists_of_at?_member hleaf
  obtain ⟨others, held, hreplaced, hpart⟩ := exists_partReplaced hleaf new
  have hothers : others = modifyMember "debugging_entry_point"
      (·.replaceAt [.member leaf.member] new) members := (Value.object.inj hreplaced).symm
  have hmachine : objectMember? others "vm_components" = objectMember? members "vm_components" :=
    hpart.objectMember?_of_ne (by decide)
  refine ⟨held, entryPoint? (replaced held leaf.member new), ?_, ?_, ?_⟩
  · rw [Value.at?, (objectMember?_eq_some_iff members _ held).mp hpart.before]
    rfl
  · rw [withOptional_of_parseRegion h, Region.withOptional, hpart.before]
    exact leaf.effect new hpart.held
  · have hagree : FieldsAgree members others :=
      hothers ▸ fieldsAgree_modifyMember (by decide) members _
    rw [hreplaced, parseRegion_eq_map hagree, h, Except.map, Region.withOptional, hpart.after,
      hmachine]
    conv => rhs; rw [withOptional_of_parseRegion h]
    rfl

end RegionLeaves

/-! ## The list of regions -/

/-- A result has one region for each element of the list, read from it. -/
theorem parseRegions_eq_ok_iff (index : Nat) (elements : List Value) (regions : List Region) :
    parseRegions index elements = .ok regions ↔
      List.Forall₂ (fun element region => parseRegion element = .ok region) elements regions := by
  induction elements generalizing index regions with
  | nil =>
    rw [parseRegions, List.forall₂_nil_left_iff, Except.ok.injEq]
    exact eq_comm
  | cons element elements ih =>
    rw [parseRegions, List.forall₂_cons_left_iff]
    constructor
    · intro h
      cases helement : parseRegion element with
      | error fault => rw [helement] at h; cases h
      | ok region =>
        cases hrest : parseRegions (index + 1) elements with
        | error rejection => simp only [helement, hrest] at h; cases h
        | ok rest =>
          simp only [helement, hrest] at h
          exact ⟨region, rest, rfl, (ih _ rest).mp hrest, (Except.ok.inj h).symm⟩
    · rintro ⟨region, rest, helement, hrest, rfl⟩
      rw [helement]
      simp only [(ih (index + 1) rest).mpr hrest]
      rfl

/-- Lists that are related element for element stay so with one element changed on both sides. -/
theorem forall₂_modify {α β : Type} {related : α → β → Prop} {as : List α} {bs : List β}
    (h : List.Forall₂ related as bs) {index : Nat} {a : α} (ha : as[index]? = some a) :
    ∃ b, bs[index]? = some b ∧ related a b ∧ ∀ (change : α → α) b', related (change a) b' →
      List.Forall₂ related (as.modify index change) (bs.set index b') := by
  induction h generalizing index with
  | nil => cases ha
  | @cons first first' rest rest' hfirst hrest ih =>
    cases index with
    | zero =>
      obtain rfl := Option.some.inj ha
      exact ⟨first', rfl, hfirst, fun change b' hb => .cons hb hrest⟩
    | succ index =>
      obtain ⟨b, hb, hab, hchange⟩ := ih ha
      exact ⟨b, hb, hab, fun change b' hb' => .cons hfirst (hchange change b' hb')⟩

/-! ## Responses -/

/-- The result of a response, part by part. -/
theorem parseValue_eq_ok_iff (members : Members) (result : Result) :
    parseValue (.object members) = .ok result ↔
      parseSummary (get? members "summary") = .ok result.summary ∧
      (∃ elements, get? members "regions" = some (.array elements) ∧
        parseRegions 0 elements = .ok result.regions) ∧
      result.bytecode = (objectMember? members "global_bytecode").map bytecode := by
  simp only [parseValue, bind, Except.bind]
  constructor
  · intro h
    cases hsummary : parseSummary (get? members "summary") with
    | error rejection => rw [hsummary] at h; cases h
    | ok summary =>
      simp only [hsummary] at h
      split at h
      · next elements hregions =>
        cases hread : parseRegions 0 elements with
        | error rejection => simp only [hread] at h; cases h
        | ok regions =>
          simp only [hread] at h
          obtain rfl := Except.ok.inj h
          exact ⟨rfl, ⟨elements, hregions, hread⟩, rfl⟩
      · cases h
  · rintro ⟨hsummary, ⟨elements, hregions, hread⟩, hbytecode⟩
    simp only [hsummary, hregions, hread, ← hbytecode]
    rfl

/-- The optional leaves of a response. -/
inductive Leaf where
  | bytecode (leaf : BytecodeLeaf)
  | machine (index : Nat) (leaf : MachineLeaf)
  | entryPoint (index : Nat) (leaf : EntryPointLeaf)
  deriving DecidableEq, Repr

/-- The way to the leaf. -/
def Leaf.way : Leaf → List Step
  | .bytecode leaf => [.member "global_bytecode", .member leaf.field.member]
  | .machine index leaf =>
    [.member "regions", .item index, .member "vm_components", .member leaf.part,
      .member leaf.member]
  | .entryPoint index leaf =>
    [.member "regions", .item index, .member "debugging_entry_point", .member leaf.member]

/-- What a new value at the leaf does to the result of the response. -/
inductive Leaf.Effect (response new : Value) (before : Result) : Leaf → Result → Prop where
  | bytecode (leaf : BytecodeLeaf) :
      Leaf.Effect response new before (.bytecode leaf)
        { before with bytecode := before.bytecode.map (leaf.field.put new) }
  | machine {index : Nat} {leaf : MachineLeaf} {parts : Members} {region : Region}
      {machine : Option Machine} (hregion : before.regions[index]? = some region)
      (hparts : response.at? [.member "regions", .item index, .member "vm_components"]
        = some (.object parts))
      (h : leaf.Effect parts new region.machine machine) :
      Leaf.Effect response new before (.machine index leaf)
        { before with regions := before.regions.set index { region with machine } }
  | entryPoint {index : Nat} {leaf : EntryPointLeaf} {members : Members} {region : Region}
      {entryPoint : Option EntryPoint} (hregion : before.regions[index]? = some region)
      (hmembers : response.at? [.member "regions", .item index, .member "debugging_entry_point"]
        = some (.object members))
      (h : leaf.Effect members new region.entryPoint entryPoint) :
      Leaf.Effect response new before (.entryPoint index leaf)
        { before with regions := before.regions.set index { region with entryPoint } }

section Responses

variable {response old : Value} {before : Result}

/-- A response with another value inside one of its regions: the region is read anew, and all else
is as it was. -/
theorem parseValue_regionLeaf {index : Nat} {way : List Step}
    (hleaf : response.at? (.member "regions" :: .item index :: way) = some old)
    (h : parseValue response = .ok before) (new : Value) :
    ∃ element region, before.regions[index]? = some region ∧ parseRegion element = .ok region ∧
      (∀ rest, response.at? (.member "regions" :: .item index :: rest) = element.at? rest) ∧
      ∀ region', parseRegion (element.replaceAt way new) = .ok region' →
        parseValue (response.replaceAt (.member "regions" :: .item index :: way) new)
          = .ok { before with regions := before.regions.set index region' } := by
  obtain ⟨members, list, rfl, hlist, hway⟩ := exists_of_at?_member hleaf
  obtain ⟨elements, element, rfl, helement, -⟩ := exists_of_at?_item hway
  obtain ⟨hsummary, ⟨_, hregions, hread⟩, hbytecode⟩ := (parseValue_eq_ok_iff members before).mp h
  obtain rfl := Value.array.inj (Option.some.inj (hlist.symm.trans hregions))
  rw [parseRegions_eq_ok_iff] at hread
  obtain ⟨region, hregion, hparsed, hchange⟩ := forall₂_modify hread helement
  refine ⟨element, region, hregion, hparsed, fun rest => ?_, fun region' hregion' => ?_⟩
  · rw [Value.at?, hlist, Option.bind_some, Value.at?, helement, Option.bind_some]
  · rw [Value.replaceAt, parseValue_eq_ok_iff]
    refine ⟨?_, ⟨elements.modify index (·.replaceAt way new), ?_, ?_⟩, ?_⟩
    · rw [get?_modifyMember_of_ne (by decide), hsummary]
    · rw [get?_modifyMember, hlist]
      rfl
    · rw [parseRegions_eq_ok_iff]
      exact hchange _ region' hregion'
    · rw [objectMember?, get?_modifyMember_of_ne (by decide), hbytecode, objectMember?]

/-- **Optional leaves are read independently.** Whatever value takes the place of a leaf, an
accepted response stays accepted, and the result changes only where that leaf is read. -/
theorem parseValue_replaceAt (leaf : Leaf) (hleaf : response.at? leaf.way = some old)
    (h : parseValue response = .ok before) (new : Value) :
    ∃ after, parseValue (response.replaceAt leaf.way new) = .ok after ∧
      leaf.Effect response new before after := by
  cases leaf with
  | bytecode leaf =>
    obtain ⟨members, _, rfl, -, -⟩ := exists_of_at?_member hleaf
    obtain ⟨others, held, hreplaced, hpart⟩ := exists_partReplaced hleaf new
    obtain ⟨hsummary, ⟨elements, hregions, hread⟩, hbytecode⟩ :=
      (parseValue_eq_ok_iff members before).mp h
    refine ⟨_, ?_, .bytecode leaf⟩
    rw [Leaf.way, hreplaced, parseValue_eq_ok_iff]
    refine ⟨?_, ⟨elements, ?_, hread⟩, ?_⟩
    · rw [hpart.other "summary" (by decide), hsummary]
    · rw [hpart.other "regions" (by decide), hregions]
    · rw [hbytecode, hpart.before, hpart.after, Option.map_some, Option.map_some, Option.map_some,
        bytecode_replaced leaf hpart.held]
  | machine index leaf =>
    obtain ⟨element, region, hregion, hparsed, hat, hread⟩ := parseValue_regionLeaf hleaf h new
    rw [Leaf.way, hat] at hleaf
    obtain ⟨parts, machine, hparts, heffect, hreplaced⟩ :=
      parseRegion_machineLeaf leaf hleaf hparsed new
    exact ⟨_, hread _ hreplaced, .machine hregion ((hat _).trans hparts) heffect⟩
  | entryPoint index leaf =>
    obtain ⟨element, region, hregion, hparsed, hat, hread⟩ := parseValue_regionLeaf hleaf h new
    rw [Leaf.way, hat] at hleaf
    obtain ⟨members, entryPoint, hmembers, heffect, hreplaced⟩ :=
      parseRegion_entryPointLeaf leaf hleaf hparsed new
    exact ⟨_, hread _ hreplaced, .entryPoint hregion ((hat _).trans hmembers) heffect⟩

end Responses

/-- A response whose machine is identified by one role alone. -/
def oneRole : Value :=
  .object [("summary", .string "vm"), ("regions", .array [.object [("start", .int 1),
    ("end", .int 9), ("type", .string "Switch Dispatcher"), ("confidence", .string "high"),
    ("description", .string ""), ("vm_components", .object [
      ("stack_pointer", .object [("variable_name", .string "sp"), ("confidence", .string "sure")]),
      ("virtual_stack", .object [("variable_name", .string "st"), ("confidence", .string "low")]),
      ("loop_entry", .object [("line_number", .int 3)])])]])]

/-- A number is no confidence, so the machine goes with its only role. -/
theorem parseValue_replaceAt_lastRole :
    let leaf := Leaf.machine 0 (.confidence .virtualStack)
    let region : Region :=
      { start := 1, finish := 9, kind := .switchDispatcher, confidence := .high, description := "" }
    let machine : Machine :=
      { instructionPointer := {}, stackPointer := {}, virtualStack := { name := some "st" },
        bytecodeArray := {}, loopEntry := some { line := 3 } }
    let before : Result :=
      { summary := .plain "vm", regions := [{ region with machine := some machine }] }
    let after : Result := { summary := .plain "vm", regions := [region] }
    oneRole.at? leaf.way = some (.string "low") ∧ parseValue oneRole = .ok before ∧
      parseValue (oneRole.replaceAt leaf.way (.int 5)) = .ok after ∧
      leaf.Effect oneRole (.int 5) before after := by
  intro leaf region machine before after
  have hleaf : oneRole.at? leaf.way = some (.string "low") := rfl
  have hbefore : parseValue oneRole = .ok before := by decide +kernel
  have hafter : parseValue (oneRole.replaceAt leaf.way (.int 5)) = .ok after := by decide +kernel
  obtain ⟨other, hother, heffect⟩ := parseValue_replaceAt leaf hleaf hbefore (.int 5)
  obtain rfl := Except.ok.inj (hother.symm.trans hafter)
  exact ⟨hleaf, hbefore, hafter, heffect⟩

/-- The result with another line for the entry of the loop in one of its regions. -/
def Result.withLoopLine (result : Result) (index : Nat) (n : Int) : Result :=
  { result with
    regions := result.regions.modify index fun region =>
      { region with
        machine := region.machine.map fun machine =>
          { machine with loopEntry := machine.loopEntry.map ({ · with line := n }) } } }

/-- A response whose machine describes the entry of its loop, with a text for the line. -/
def unlinedLoop : Value :=
  .object [("summary", .string "vm"), ("regions", .array [.object [("start", .int 1),
    ("end", .int 9), ("type", .string "Switch Dispatcher"), ("confidence", .string "high"),
    ("description", .string ""), ("vm_components", .object [
      ("stack_pointer", .object [("variable_name", .string "sp"), ("confidence", .string "low")]),
      ("loop_entry", .object [("line_number", .string "x"),
        ("description", .string "outer")])])]])]

/-- **A whole number does more than set a line**: in place of a text it brings out the entry of the
loop, which has more in it than the line. -/
theorem not_parseValue_replaceAt_withLoopLine :
    ¬ ∀ (response old new : Value) (index : Nat) (before : Result) (n : Int),
      response.at? (Leaf.machine index .loopEntryLine).way = some old →
        parseValue response = .ok before → wholeNumber? new = some n →
          parseValue (response.replaceAt (Leaf.machine index .loopEntryLine).way new)
            = .ok (before.withLoopLine index n) := by
  intro hall
  let before : Result :=
    { summary := .plain "vm"
      regions := [{ start := 1, finish := 9, kind := .switchDispatcher, confidence := .high
                    description := ""
                    machine := some {
                      instructionPointer := {}, stackPointer := { name := some "sp" }
                      virtualStack := {}, bytecodeArray := {} } }] }
  have hbefore : parseValue unlinedLoop = .ok before := by decide +kernel
  have hafter := hall unlinedLoop (.string "x") (.int 5) 0 before 5 rfl hbefore (by decide +kernel)
  exact absurd hafter (by decide +kernel)

end VmScan.Detection
