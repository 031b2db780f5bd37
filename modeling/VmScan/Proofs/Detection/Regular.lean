import VmScan.Proofs.Detection.Disjoint
import VmScan.Proofs.Detection.Grammar
import VmScan.Proofs.Json.Floats

/-!
# Results that can be given back

A response holds numbers within the binary64 range only, so every number in a result is within it,
and the lines of every region are in order. Merging keeps both.

* `numbers` — all numbers of a part of a result.
* `AllFit` — the numbers are within the binary64 range.
* `Result.Regular` — the numbers of a result fit, and the lines of its regions are in order.
* `Produced` — a result that comes from responses, by reading and merging.

Results:
* `fits_of_intMember?`: a number that is read from a member fits.
* `regular_of_parse`: a result that is read is regular.
* `regular_merge`: merging regular results gives a regular result.
* `Produced.regular`: every result that comes from responses is regular.
-/

namespace VmScan.Detection

open VmScan.Json VmScan.Number

/-! ## The numbers of a result -/

/-- The numbers of a variable in a role. -/
def RoleVariable.numbers (role : RoleVariable) : List Int :=
  role.line.toList ++ role.sourceLine.toList ++ role.sourceColumn.toList

/-- The numbers of the entry of the loop. -/
def LoopEntry.numbers (entry : LoopEntry) : List Int :=
  entry.line :: entry.sourceLine.toList ++ entry.sourceColumn.toList

/-- The numbers of the statement that fetches the opcode. -/
def Breakpoint.numbers (point : Breakpoint) : List Int :=
  point.line :: point.sourceLine.toList ++ point.sourceColumn.toList

/-- The numbers of the parts of a machine. -/
def Machine.numbers (machine : Machine) : List Int :=
  machine.instructionPointer.numbers ++ machine.stackPointer.numbers
    ++ machine.virtualStack.numbers ++ machine.bytecodeArray.numbers
    ++ machine.loopEntry.toList.flatMap (·.numbers) ++ machine.breakpoint.toList.flatMap (·.numbers)

/-- The numbers of the single entry point. -/
def EntryPoint.numbers (entry : EntryPoint) : List Int :=
  [entry.line]

/-- The numbers of the shared bytecode. -/
def Bytecode.numbers (bytecode : Bytecode) : List Int :=
  bytecode.definitionLine.toList ++ bytecode.sourceLine.toList ++ bytecode.sourceColumn.toList

/-- The numbers of a region. -/
def Region.numbers (region : Region) : List Int :=
  region.start :: region.finish :: region.machine.toList.flatMap (·.numbers)
    ++ region.entryPoint.toList.flatMap (·.numbers)

/-- The numbers are within the binary64 range. -/
def AllFit (numbers : List Int) : Prop :=
  ∀ n ∈ numbers, fitsBinary64 n = true

/-- The numbers of the result are within the binary64 range, and the lines of its regions are in
order. -/
structure Result.Regular (result : Result) : Prop where
  bytecode : ∀ bytecode ∈ result.bytecode, AllFit bytecode.numbers
  regions : ∀ region ∈ result.regions, AllFit region.numbers
  ranged : ∀ region ∈ result.regions, Ranged region

theorem allFit_append {ms ns : List Int} : AllFit (ms ++ ns) ↔ AllFit ms ∧ AllFit ns :=
  List.forall_mem_append

theorem allFit_cons {n : Int} {ns : List Int} :
    AllFit (n :: ns) ↔ fitsBinary64 n = true ∧ AllFit ns :=
  List.forall_mem_cons

theorem allFit_toList {number : Option Int} :
    AllFit number.toList ↔ ∀ n ∈ number, fitsBinary64 n = true :=
  forall_congr' fun n => by rw [Option.mem_toList, Option.mem_def]

theorem allFit_flatMap {α : Type} {numbers : α → List Int} {part : Option α} :
    AllFit (part.toList.flatMap numbers) ↔ ∀ a ∈ part, AllFit (numbers a) := by
  cases part with
  | none => exact iff_of_true (fun n hn => by cases hn) (fun a ha => by cases ha)
  | some a => simp [AllFit]

/-! ## What is read -/

section Read

variable {members : Members} {name : String}

theorem inFormat_of_get? (h : ∀ member ∈ members, member.2.InFormat) {value : Value}
    (hvalue : get? members name = some value) : value.InFormat := by
  obtain ⟨member, hfind, rfl⟩ := Option.map_eq_some_iff.mp hvalue
  exact h member (List.mem_of_find?_eq_some hfind)

theorem fits_of_wholeNumber? {value : Value} (h : value.InFormat) {n : Int}
    (hn : wholeNumber? value = some n) : fitsBinary64 n = true := by
  cases h with
  | int k =>
    simp only [wholeNumber?, Option.ite_none_right_eq_some, Option.some.injEq] at hn
    exact hn.2 ▸ hn.1
  | float hx => exact hx.fits hn
  | _ => cases hn

/-- A number that is read from a member fits. -/
theorem fits_of_intMember? (h : ∀ member ∈ members, member.2.InFormat) {n : Int}
    (hn : n ∈ intMember? members name) : fitsBinary64 n = true := by
  obtain ⟨value, hvalue, hn⟩ := Option.bind_eq_some_iff.mp hn
  exact fits_of_wholeNumber? (inFormat_of_get? h hvalue) hn

theorem allFit_intMember? (h : ∀ member ∈ members, member.2.InFormat) (name : String) :
    AllFit (intMember? members name).toList :=
  allFit_toList.mpr fun _ hn => fits_of_intMember? h hn

theorem inFormat_of_objectMember? (h : ∀ member ∈ members, member.2.InFormat) {held : Members}
    (hheld : objectMember? members name = some held) : ∀ member ∈ held, member.2.InFormat := by
  obtain ⟨value, hvalue, hobject⟩ := Option.bind_eq_some_iff.mp hheld
  have hformat := inFormat_of_get? h hvalue
  cases hformat with
  | object hmembers =>
    obtain rfl := Option.some.inj hobject
    exact hmembers
  | _ => cases hobject

theorem allFit_roleVariable? (h : ∀ member ∈ members, member.2.InFormat) {role : RoleVariable}
    (hrole : roleVariable? members = some role) : AllFit role.numbers := by
  obtain ⟨confidence, -, hrole⟩ := Option.bind_eq_some_iff.mp hrole
  obtain rfl := Option.some.inj hrole
  simp only [RoleVariable.numbers, allFit_append]
  exact ⟨⟨allFit_intMember? h _, allFit_intMember? h _⟩, allFit_intMember? h _⟩

theorem allFit_loopEntry? (h : ∀ member ∈ members, member.2.InFormat) {entry : LoopEntry}
    (hentry : loopEntry? members = some entry) : AllFit entry.numbers := by
  obtain ⟨line, hline, hentry⟩ := Option.bind_eq_some_iff.mp hentry
  obtain rfl := Option.some.inj hentry
  simp only [LoopEntry.numbers, List.cons_append, allFit_cons, allFit_append]
  exact ⟨fits_of_intMember? h hline, allFit_intMember? h _, allFit_intMember? h _⟩

theorem allFit_breakpoint? (h : ∀ member ∈ members, member.2.InFormat) {point : Breakpoint}
    (hpoint : breakpoint? members = some point) : AllFit point.numbers := by
  obtain ⟨line, hline, hpoint⟩ := Option.bind_eq_some_iff.mp hpoint
  obtain rfl := Option.some.inj hpoint
  simp only [Breakpoint.numbers, List.cons_append, allFit_cons, allFit_append]
  exact ⟨fits_of_intMember? h hline, allFit_intMember? h _, allFit_intMember? h _⟩

theorem allFit_entryPoint? (h : ∀ member ∈ members, member.2.InFormat) {entry : EntryPoint}
    (hentry : entryPoint? members = some entry) : AllFit entry.numbers := by
  obtain ⟨line, hline, hentry⟩ := Option.bind_eq_some_iff.mp hentry
  obtain rfl := Option.some.inj hentry
  exact List.forall_mem_singleton.mpr (fits_of_intMember? h hline)

theorem allFit_bytecode (h : ∀ member ∈ members, member.2.InFormat) :
    AllFit (bytecode members).numbers := by
  simp only [Bytecode.numbers, bytecode, allFit_append]
  exact ⟨⟨allFit_intMember? h _, allFit_intMember? h _⟩, allFit_intMember? h _⟩

/-- A part that is read from an object in a member fits if such parts do. -/
theorem allFit_part {α : Type} {numbers : α → List Int} {read : Members → Option α}
    (hread : ∀ held : Members, (∀ member ∈ held, member.2.InFormat) →
      ∀ a, read held = some a → AllFit (numbers a))
    (h : ∀ member ∈ members, member.2.InFormat) {a : α}
    (ha : (objectMember? members name).bind read = some a) : AllFit (numbers a) := by
  obtain ⟨held, hheld, ha⟩ := Option.bind_eq_some_iff.mp ha
  exact hread held (inFormat_of_objectMember? h hheld) a ha

/-- A role that is not identified has no numbers. -/
theorem allFit_role (h : ∀ member ∈ members, member.2.InFormat) (name : String) :
    AllFit (((objectMember? members name).bind roleVariable?).getD {}).numbers := by
  cases hrole : (objectMember? members name).bind roleVariable? with
  | none => exact fun n hn => by cases hn
  | some role => exact allFit_part (fun held hheld a => allFit_roleVariable? hheld) h hrole

theorem allFit_machine? (h : ∀ member ∈ members, member.2.InFormat) {machine : Machine}
    (hmachine : machine? members = some machine) : AllFit machine.numbers := by
  unfold machine? at hmachine
  simp only [Option.ite_none_left_eq_some, Option.some.injEq] at hmachine
  obtain ⟨-, rfl⟩ := hmachine
  simp only [Machine.numbers, allFit_append, allFit_flatMap]
  exact ⟨⟨⟨⟨⟨allFit_role h _, allFit_role h _⟩, allFit_role h _⟩, allFit_role h _⟩,
    fun entry hentry => allFit_part (fun held hheld a => allFit_loopEntry? hheld) h hentry⟩,
    fun point hpoint => allFit_part (fun held hheld a => allFit_breakpoint? hheld) h hpoint⟩

theorem fits_of_hasLine (h : ∀ member ∈ members, member.2.InFormat) {present older : String}
    {n : Int} (hline : HasLine members present older n) : fitsBinary64 n = true := by
  obtain ⟨value, hvalue, hn⟩ := hline
  have hformat : value.InFormat := by
    rcases hvalue with ⟨hget, -⟩ | ⟨-, hget, -⟩ <;> exact inFormat_of_get? h hget
  exact fits_of_wholeNumber? hformat ((wholeNumber?_eq_some_iff value n).mpr hn)

/-- The optional parts of a region are read from its members. -/
theorem parts_of_checkedRegion {start finish : Int} {kind confidence description : String}
    {region : Region}
    (h : checkedRegion members start finish kind confidence description = .ok region) :
    region.machine = (objectMember? members "vm_components").bind machine? ∧
      region.entryPoint = (objectMember? members "debugging_entry_point").bind entryPoint? := by
  simp only [checkedRegion, bind, Except.bind] at h
  split at h
  · cases h
  · split at h
    · cases h
    · split at h
      · cases h
      · cases h
        exact ⟨rfl, rfl⟩

theorem parts_of_parseRegion {region : Region} (h : parseRegion (.object members) = .ok region) :
    region.machine = (objectMember? members "vm_components").bind machine? ∧
      region.entryPoint = (objectMember? members "debugging_entry_point").bind entryPoint? := by
  simp only [parseRegion, bind, Except.bind] at h
  iterate 5
    split at h
    · cases h
  exact parts_of_checkedRegion h

/-- The numbers of a region that is read fit, and its lines are in order. -/
theorem regular_of_parseRegion {value : Value} (hformat : value.InFormat) {region : Region}
    (h : parseRegion value = .ok region) : AllFit region.numbers ∧ Ranged region := by
  obtain ⟨members, rfl, hfields⟩ := describes_of_parseRegion h
  obtain ⟨hmachine, hentry⟩ := parts_of_parseRegion h
  cases hformat with
  | object hmembers =>
    refine ⟨?_, hfields.ordered⟩
    simp only [Region.numbers, List.cons_append, allFit_cons, allFit_append, allFit_flatMap,
      hmachine, hentry]
    exact ⟨fits_of_hasLine hmembers hfields.start, fits_of_hasLine hmembers hfields.finish,
      fun machine hmachine =>
        allFit_part (fun held hheld a => allFit_machine? hheld) hmembers hmachine,
      fun entry hentry =>
        allFit_part (fun held hheld a => allFit_entryPoint? hheld) hmembers hentry⟩

end Read

/-- Every region of a list is read from one of its elements. -/
theorem exists_parseRegion_of_mem {index : Nat} {values : List Value} {regions : List Region}
    (h : parseRegions index values = .ok regions) {region : Region} (hregion : region ∈ regions) :
    ∃ value ∈ values, parseRegion value = .ok region := by
  induction values generalizing index regions with
  | nil =>
    obtain rfl := Except.ok.inj h
    cases hregion
  | cons value values ih =>
    unfold parseRegions at h
    cases hvalue : parseRegion value with
    | error fault => rw [hvalue] at h; cases h
    | ok first =>
      cases hvalues : parseRegions (index + 1) values with
      | error rejection => rw [hvalue, hvalues] at h; cases h
      | ok rest =>
        rw [hvalue, hvalues] at h
        obtain rfl := Except.ok.inj h
        rcases List.mem_cons.mp hregion with rfl | hrest
        · exact ⟨value, List.mem_cons_self, hvalue⟩
        · obtain ⟨other, hother, hread⟩ := ih hvalues hrest
          exact ⟨other, List.mem_cons_of_mem value hother, hread⟩

/-- A result that is read is regular. -/
theorem regular_of_parse {runtime : Runtime} {response : String} {result : Result}
    (h : parse runtime response = .ok result) :
    result.Regular := by
  obtain ⟨value, hdecode, hvalue⟩ := decode_of_parse h
  obtain ⟨members, elements, rfl, hsummary, hregions, hread⟩ := parseValue_eq_ok hvalue
  have hformat : ∀ member ∈ members, member.2.InFormat := by
    cases inFormat_decode hdecode with
    | object hmembers => exact hmembers
  have helements : ∀ element ∈ elements, element.InFormat := by
    cases inFormat_of_get? hformat hregions with
    | array hitems => exact hitems
  have hall : ∀ region ∈ result.regions, AllFit region.numbers ∧ Ranged region := by
    intro region hregion
    obtain ⟨element, helement, hread⟩ := exists_parseRegion_of_mem hread hregion
    exact regular_of_parseRegion (helements element helement) hread
  refine ⟨?_, fun region hr => (hall region hr).1, fun region hr => (hall region hr).2⟩
  obtain ⟨summary, hobject⟩ := parseValue_object hsummary hregions
  rw [hobject, hread] at hvalue
  have hshape := Except.ok.inj hvalue
  intro shared hshared
  rw [← hshape] at hshared
  obtain ⟨held, hheld, rfl⟩ := Option.map_eq_some_iff.mp hshared
  exact allFit_bytecode (inFormat_of_objectMember? hformat hheld)

/-! ## What is merged -/

/-- Deduplication brings no other region in. -/
theorem mem_of_mem_deduplicate {regions : List Region} (h : ∀ region ∈ regions, Ranged region)
    {region : Region} (hregion : region ∈ deduplicate regions) : region ∈ regions :=
  List.mem_mergeSort.mp ((settled_deduplicate h).sublist.subset hregion)

/-- The bytecode of a merged result is the bytecode of one of the results. -/
theorem mem_of_merge_bytecode {results : List Result} {bytecode : Bytecode}
    (h : bytecode ∈ (merge results).bytecode) : ∃ result ∈ results, bytecode ∈ result.bytecode := by
  match results with
  | [] => cases h
  | [only] => exact ⟨only, List.mem_cons_self, h⟩
  | first :: second :: others =>
    have hmem := List.mem_of_find?_eq_some h
    obtain ⟨result, hresult, hbytecode⟩ := List.mem_filterMap.mp hmem
    exact ⟨result, hresult, hbytecode⟩

/-- Merging regular results gives a regular result. -/
theorem regular_merge {results : List Result} (h : ∀ result ∈ results, result.Regular) :
    (merge results).Regular := by
  have hranged : ∀ region ∈ results.flatMap (·.regions), Ranged region := by
    intro region hregion
    obtain ⟨result, hresult, hregion⟩ := List.mem_flatMap.mp hregion
    exact (h result hresult).ranged region hregion
  have hmem : ∀ region ∈ (merge results).regions, region ∈ results.flatMap (·.regions) := by
    intro region hregion
    rw [merge_regions] at hregion
    exact mem_of_mem_deduplicate hranged hregion
  refine ⟨?_, ?_, fun region hregion => hranged region (hmem region hregion)⟩
  · intro bytecode hbytecode
    obtain ⟨result, hresult, hbytecode⟩ := mem_of_merge_bytecode hbytecode
    exact (h result hresult).bytecode bytecode hbytecode
  · intro region hregion
    obtain ⟨result, hresult, hregion⟩ := List.mem_flatMap.mp (hmem region hregion)
    exact (h result hresult).regions region hregion

/-! ## What comes from responses -/

/-- The result comes from responses: it is what one of them stands for, or merged from such
results. -/
inductive Produced : Result → Prop where
  | parsed {runtime : Runtime} {response : String} {result : Result}
      (h : parse runtime response = .ok result) : Produced result
  | merged {results : List Result} (h : ∀ result ∈ results, Produced result) :
      Produced (merge results)

/-- **Every result that comes from responses is regular.** -/
theorem Produced.regular {result : Result} (h : Produced result) : result.Regular := by
  induction h with
  | parsed h => exact regular_of_parse h
  | merged h ih => exact regular_merge ih

end VmScan.Detection
