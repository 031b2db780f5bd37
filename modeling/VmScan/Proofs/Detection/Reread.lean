import VmScan.Detection.Export
import VmScan.Proofs.Detection.Regular
import VmScan.Proofs.Json.RoundTrip

/-!
# Written results are read back

A result is written (`export_json`) with the older names of its lines, with null for every part that
is absent, and with all four roles. Reading it back gives the result: no leaf is dropped, and no
part appears.

Results:
* `roleVariable?_toJson` to `parseRegion_toJson`: each part is read back from its value.
* `parseValue_toJson`: a regular result is read back from its value.
* `writable_result`: the value of a regular result is written and read without a limit in the way.
* `parse_write`: a regular result is read back from its text.
* `parse_encode_of_produced`: so is every result that comes from responses.
-/

namespace VmScan.Detection

open VmScan.Json VmScan.Number

/-! ## Leaves -/

@[simp]
theorem text?_string (text : String) : text? (.string text) = some text := rfl

@[simp]
theorem text?_ofText? (text : Option String) : text? (ofText? text) = text := by
  cases text <;> rfl

@[simp]
theorem object?_object (members : Members) : object? (.object members) = some members := rfl

theorem wholeNumber?_int {n : Int} (h : fitsBinary64 n = true) :
    wholeNumber? (.int n) = some n := by
  rw [wholeNumber?, if_pos h]

theorem wholeNumber?_ofInt? {number : Option Int} (h : AllFit number.toList) :
    wholeNumber? (ofInt? number) = number := by
  cases number with
  | none => rfl
  | some n => exact wholeNumber?_int (h n List.mem_cons_self)

@[simp]
theorem Structure.ofLabel?_label (kind : Structure) : Structure.ofLabel? kind.label = some kind :=
  (Structure.ofLabel?_eq_some_iff _ kind).mpr rfl

@[simp]
theorem Confidence.ofLabel?_label (confidence : Confidence) :
    Confidence.ofLabel? confidence.label = some confidence :=
  (Confidence.ofLabel?_eq_some_iff _ confidence).mpr rfl

@[simp]
theorem BytecodeLayout.bind_ofLabel? (layout : Option BytecodeLayout) :
    (layout.map (·.label)).bind BytecodeLayout.ofLabel? = layout := by
  cases layout with
  | none => rfl
  | some layout => cases layout <;> decide

/-! ## Optional parts -/

/-- A variable in a role is read back, identified or not. -/
theorem roleVariable?_toJson {role : RoleVariable} (h : AllFit role.numbers) :
    (object? role.toJson).bind roleVariable? = some role := by
  simp only [RoleVariable.numbers, allFit_append] at h
  simp [RoleVariable.toJson, roleVariable?, textMember, textMember?, intMember?, get?,
    wholeNumber?_ofInt?, h]

theorem loopEntry?_toJson {entry : LoopEntry} (h : AllFit entry.numbers) :
    (object? entry.toJson).bind loopEntry? = some entry := by
  simp only [LoopEntry.numbers, List.cons_append, allFit_cons, allFit_append] at h
  simp [LoopEntry.toJson, loopEntry?, textMember, textMember?, intMember?, get?, wholeNumber?_int,
    wholeNumber?_ofInt?, h]

theorem breakpoint?_toJson {point : Breakpoint} (h : AllFit point.numbers) :
    (object? point.toJson).bind breakpoint? = some point := by
  simp only [Breakpoint.numbers, List.cons_append, allFit_cons, allFit_append] at h
  simp [Breakpoint.toJson, breakpoint?, textMember, textMember?, intMember?, get?,
    wholeNumber?_int, wholeNumber?_ofInt?, h]

theorem entryPoint?_toJson {entry : EntryPoint} (h : AllFit entry.numbers) :
    (object? entry.toJson).bind entryPoint? = some entry := by
  simp only [EntryPoint.numbers, allFit_cons] at h
  simp [EntryPoint.toJson, entryPoint?, textMember, textMember?, intMember?, get?,
    wholeNumber?_int, h]

theorem bytecode_toJson {shared : Bytecode} (h : AllFit shared.numbers) :
    (object? shared.toJson).map bytecode = some shared := by
  simp only [Bytecode.numbers, allFit_append] at h
  simp [Bytecode.toJson, bytecode, textMember, textMember?, intMember?, get?,
    wholeNumber?_ofInt?, h]

/-- A part that may be absent is read back if the part is. -/
theorem bind_getD_null {α : Type} {toJson : α → Value} {read : Members → Option α}
    {part : Option α} (h : ∀ a ∈ part, (object? (toJson a)).bind read = some a) :
    (object? ((part.map toJson).getD .null)).bind read = part := by
  cases part with
  | none => rfl
  | some a => exact h a rfl

/-- A machine is read back: every role that is written has a known confidence. -/
theorem machine?_toJson {machine : Machine} (h : AllFit machine.numbers) :
    (object? machine.toJson).bind machine? = some machine := by
  simp only [Machine.numbers, allFit_append, allFit_flatMap] at h
  obtain ⟨⟨⟨⟨⟨hinstruction, hpointer⟩, hstack⟩, harray⟩, hentry⟩, hpoint⟩ := h
  have hloop := bind_getD_null fun entry hmem => loopEntry?_toJson (hentry entry hmem)
  have hbreak := bind_getD_null fun point hmem => breakpoint?_toJson (hpoint point hmem)
  simp [Machine.toJson, machine?, objectMember?, get?, roleVariable?_toJson, hinstruction, hpointer,
    hstack, harray, hloop, hbreak]

/-! ## Required parts -/

/-- A line is read back by its older name. -/
theorem requiredLine_older {members : Members} {field : LineField} {n : Int}
    (hpresent : get? members field.name = none)
    (holder : get? members field.olderName = some (.int n)) (h : fitsBinary64 n = true) :
    requiredLine members field = .ok n := by
  have hvalue : lineValue members field = .int n := by
    rw [lineValue, hpresent, holder]
    rfl
  rw [requiredLine, hvalue]
  simp only [shownNumber?, wholeNumber?_int h]

theorem requiredText_of_get? {members : Members} {field : TextField} {text : String}
    (h : get? members field.name = some (.string text)) :
    requiredText members field = .ok text := by
  rw [requiredText, textMember?, h]
  rfl

/-- A region is read back, by the older names of its lines. -/
theorem parseRegion_toJson {region : Region} (h : AllFit region.numbers) (hranged : Ranged region) :
    parseRegion region.toJson = .ok region := by
  simp only [Region.numbers, List.cons_append, allFit_cons, allFit_append, allFit_flatMap] at h
  obtain ⟨hstart, hfinish, hmachine, hentry⟩ := h
  -- an absent machine or entry point is written as null, which is no object
  have hvm := bind_getD_null fun machine hmem => machine?_toJson (hmachine machine hmem)
  have hpoint := bind_getD_null fun entry hmem => entryPoint?_toJson (hentry entry hmem)
  have hordered : ¬ region.finish < region.start := Int.not_lt.mpr hranged
  unfold parseRegion Region.toJson
  simp only [bind, Except.bind]
  rw [requiredLine_older rfl rfl hstart, requiredLine_older rfl rfl hfinish,
    requiredText_of_get? rfl, requiredText_of_get? rfl, requiredText_of_get? rfl]
  simp [checkedRegion, requiredLabel, objectMember?, get?, hvm, hpoint, hordered, bind, Except.bind,
    pure, Except.pure]

theorem parseRegions_toJson (index : Nat) {regions : List Region}
    (h : ∀ region ∈ regions, AllFit region.numbers) (hranged : ∀ region ∈ regions, Ranged region) :
    parseRegions index (regions.map (·.toJson)) = .ok regions := by
  induction regions generalizing index with
  | nil => rfl
  | cons region regions ih =>
    obtain ⟨hregion, hregions⟩ := List.forall_mem_cons.mp h
    obtain ⟨hfirst, hrest⟩ := List.forall_mem_cons.mp hranged
    rw [List.map_cons, parseRegions, parseRegion_toJson hregion hfirst,
      ih (index + 1) hregions hrest]
    rfl

theorem parseSummary_toJson (summary : Summary) :
    parseSummary (some summary.toJson) = .ok summary := by
  cases summary <;> rfl

/-- **A regular result is read back from its value.** -/
theorem parseValue_toJson {result : Result} (h : result.Regular) :
    parseValue result.toJson = .ok result := by
  have hbytecode : (object? ((result.bytecode.map (·.toJson)).getD .null)).map bytecode
      = result.bytecode := by
    cases hshared : result.bytecode with
    | none => rfl
    | some shared => exact bytecode_toJson (h.bytecode shared hshared)
  have hregions := parseRegions_toJson 0 h.regions h.ranged
  simp [parseValue, Result.toJson, objectMember?, get?, parseSummary_toJson, hbytecode, hregions,
    bind, Except.bind, pure, Except.pure]

/-! ## Writing within the limits of reading -/

/-- A number that fits is far from the limit on digits. -/
theorem length_toDigits_le {n : Int} (h : fitsBinary64 n = true) :
    (Nat.toDigits 10 n.natAbs).length ≤ maxDigits := by
  have hbound : binary64Bound ≤ 10 ^ maxDigits := by decide +kernel
  rw [fitsBinary64, decide_eq_true_eq] at h
  exact (Nat.length_toDigits_le_iff (by decide) (by decide)).mpr (Nat.lt_of_lt_of_le h hbound)

theorem writable_int (depth : Nat) {n : Int} (h : fitsBinary64 n = true) :
    Writable depth (.int n) :=
  .int depth (length_toDigits_le h)

theorem writable_ofInt? (depth : Nat) {number : Option Int} (h : AllFit number.toList) :
    Writable depth (ofInt? number) := by
  cases number with
  | none => exact .null depth
  | some n => exact writable_int depth (h n List.mem_cons_self)

theorem writable_ofText? (depth : Nat) (text : Option String) : Writable depth (ofText? text) := by
  cases text with
  | none => exact .null depth
  | some text => exact .string depth text

theorem writable_getD_null {α : Type} {toJson : α → Value} {depth : Nat} {part : Option α}
    (h : ∀ a ∈ part, Writable depth (toJson a)) :
    Writable depth ((part.map toJson).getD .null) := by
  cases part with
  | none => exact .null depth
  | some a => exact h a rfl

theorem writable_role (depth : Nat) {role : RoleVariable} (h : AllFit role.numbers) :
    Writable (depth + 1) role.toJson := by
  simp only [RoleVariable.numbers, allFit_append] at h
  refine .object (by simp) ?_
  simp only [List.forall_mem_cons]
  exact ⟨writable_ofText? _ _, writable_ofInt? _ h.1.1, writable_ofInt? _ h.1.2,
    writable_ofInt? _ h.2, .string _ _, .string _ _, List.forall_mem_nil _⟩

theorem writable_loopEntry (depth : Nat) {entry : LoopEntry} (h : AllFit entry.numbers) :
    Writable (depth + 1) entry.toJson := by
  simp only [LoopEntry.numbers, List.cons_append, allFit_cons, allFit_append] at h
  refine .object (by simp) ?_
  simp only [List.forall_mem_cons]
  exact ⟨writable_int _ h.1, writable_ofInt? _ h.2.1, writable_ofInt? _ h.2.2, .string _ _,
    List.forall_mem_nil _⟩

theorem writable_breakpoint (depth : Nat) {point : Breakpoint} (h : AllFit point.numbers) :
    Writable (depth + 1) point.toJson := by
  simp only [Breakpoint.numbers, List.cons_append, allFit_cons, allFit_append] at h
  refine .object (by simp) ?_
  simp only [List.forall_mem_cons]
  exact ⟨writable_int _ h.1, writable_ofInt? _ h.2.1, writable_ofInt? _ h.2.2,
    writable_ofText? _ _, .string _ _, List.forall_mem_nil _⟩

theorem writable_entryPoint (depth : Nat) {entry : EntryPoint} (h : AllFit entry.numbers) :
    Writable (depth + 1) entry.toJson := by
  refine .object (by simp) ?_
  simp only [List.forall_mem_cons]
  exact ⟨writable_int _ (h _ List.mem_cons_self), .string _ _, List.forall_mem_nil _⟩

theorem writable_bytecode (depth : Nat) {shared : Bytecode} (h : AllFit shared.numbers) :
    Writable (depth + 1) shared.toJson := by
  simp only [Bytecode.numbers, allFit_append] at h
  refine .object (by simp) ?_
  simp only [List.forall_mem_cons]
  exact ⟨writable_ofText? _ _, writable_ofInt? _ h.1.1, writable_ofInt? _ h.1.2,
    writable_ofInt? _ h.2, writable_ofText? _ _, writable_ofText? _ _, writable_ofText? _ _,
    writable_ofText? _ _, .string _ _, List.forall_mem_nil _⟩

theorem writable_machine (depth : Nat) {machine : Machine} (h : AllFit machine.numbers) :
    Writable (depth + 2) machine.toJson := by
  simp only [Machine.numbers, allFit_append, allFit_flatMap] at h
  obtain ⟨⟨⟨⟨⟨hinstruction, hpointer⟩, hstack⟩, harray⟩, hentry⟩, hpoint⟩ := h
  refine .object (by simp) ?_
  simp only [List.forall_mem_cons]
  exact ⟨writable_role _ hinstruction, writable_role _ hpointer, writable_role _ hstack,
    writable_role _ harray,
    writable_getD_null fun entry he => writable_loopEntry _ (hentry entry he),
    writable_getD_null fun point hp => writable_breakpoint _ (hpoint point hp),
    List.forall_mem_nil _⟩

theorem writable_region (depth : Nat) {region : Region} (h : AllFit region.numbers) :
    Writable (depth + 3) region.toJson := by
  simp only [Region.numbers, List.cons_append, allFit_cons, allFit_append, allFit_flatMap] at h
  obtain ⟨hstart, hfinish, hmachine, hentry⟩ := h
  refine .object (by simp) ?_
  simp only [List.forall_mem_cons]
  exact ⟨writable_int _ hstart, writable_int _ hfinish, .string _ _, .string _ _, .string _ _,
    writable_getD_null fun machine hm => writable_machine _ (hmachine machine hm),
    writable_getD_null fun entry he => writable_entryPoint _ (hentry entry he),
    List.forall_mem_nil _⟩

theorem writable_summary (depth : Nat) (summary : Summary) :
    Writable (depth + 1) summary.toJson := by
  cases summary with
  | plain text => exact .string _ text
  | advised overall recommendation =>
    refine .object (by simp) ?_
    simp only [List.forall_mem_cons]
    exact ⟨.string _ _, .string _ _, List.forall_mem_nil _⟩

/-- The value of a regular result is written and read without a limit in the way. -/
theorem writable_result (depth : Nat) {result : Result} (h : result.Regular) :
    Writable (depth + 5) result.toJson := by
  have hregions : ∀ item ∈ result.regions.map (·.toJson), Writable (depth + 3) item := by
    intro item hitem
    obtain ⟨region, hregion, rfl⟩ := List.mem_map.mp hitem
    exact writable_region depth (h.regions region hregion)
  refine .object (by simp) ?_
  simp only [List.forall_mem_cons]
  exact ⟨writable_summary _ _,
    writable_getD_null fun shared hs => writable_bytecode _ (h.bytecode shared hs),
    .array hregions, List.forall_mem_nil _⟩

/-! ## Whole results -/

/-- **A regular result is read back from its text**, at any level of indentation. -/
theorem parse_write (runtime : Runtime) {result : Result} (h : result.Regular) (level : Nat) :
    parse runtime (String.ofList (result.toJson.write level)) = .ok result := by
  -- containers stand in each other five deep at most, and every runtime reads sixteen
  have hwritable : Writable runtime.depth result.toJson := by
    have hdeep := writable_result (runtime.depth - 5) h
    rwa [Nat.sub_add_cancel (Nat.le_trans (by decide) runtime.sixteen_le_depth)] at hdeep
  have hdecode := decode_write hwritable level
  have hfence : stripFence (result.toJson.write level) = result.toJson.write level := by
    unfold Result.toJson Value.write
    exact stripFence_cons rfl (by decide) _
  rw [parse_of_decode, parseValue_toJson h]
  rw [String.toList_ofList, hfence]
  exact hdecode

/-- **Every result that comes from responses is read back from its text**: as a text of its own,
and at any level of indentation at which it stands inside another value. -/
theorem parse_encode_of_produced (runtime : Runtime) {result : Result} (h : Produced result) :
    parse runtime (encode result.toJson) = .ok result ∧
      ∀ level, parse runtime (String.ofList (result.toJson.write level)) = .ok result :=
  ⟨parse_write runtime h.regular 0, parse_write runtime h.regular⟩

/-- A region with roles that are not identified and an older entry point. -/
def halfKnownRegion : Region where
  start := -3
  finish := 12
  kind := .switchDispatcher
  confidence := .high
  description := "a \"quoted\" line\nand a second"
  machine := some {
    instructionPointer := { name := some "pc", line := some 7, confidence := .ultraHigh }
    stackPointer := {}, virtualStack := {}, bytecodeArray := {} }
  entryPoint := some { line := 7 }

/-- A result with one such region. -/
def halfKnown : Result where
  summary := .plain ""
  regions := [halfKnownRegion]

theorem regular_halfKnown : halfKnown.Regular := by
  have hbound : 20 ≤ binary64Bound := by decide +kernel
  have hnumbers : halfKnownRegion.numbers = [-3, 12, 7, 7] := rfl
  have hsmall : ∀ n ∈ halfKnownRegion.numbers, n.natAbs < 20 := by
    rw [hnumbers]
    decide
  constructor
  · intro shared hshared
    cases hshared
  · intro region hregion n hn
    obtain rfl := List.mem_singleton.mp hregion
    rw [fitsBinary64, decide_eq_true_eq]
    exact Nat.lt_of_lt_of_le (hsmall n hn) hbound
  · intro region hregion
    obtain rfl := List.mem_singleton.mp hregion
    unfold Ranged
    decide

/-- The half-known result is read back, and so are two of it merged. -/
theorem parse_encode_of_produced_halfKnown :
    Produced halfKnown ∧ parse .usual (encode halfKnown.toJson) = .ok halfKnown ∧
      Produced (merge [halfKnown, halfKnown]) ∧
      parse .usual (encode (merge [halfKnown, halfKnown]).toJson)
        = .ok (merge [halfKnown, halfKnown]) := by
  have hproduced : Produced halfKnown := .parsed (parse_write .usual regular_halfKnown 0)
  have hmerged : Produced (merge [halfKnown, halfKnown]) := .merged (by simp [hproduced])
  exact ⟨hproduced, (parse_encode_of_produced .usual hproduced).1, hmerged,
    (parse_encode_of_produced .usual hmerged).1⟩

end VmScan.Detection
