import VmScan.Detection.Merge
import VmScan.Detection.Report
import VmScan.Proofs.Listing.Written
import VmScan.Proofs.Text.Mentions

/-!
# What a report leaves out

A part of a result that is absent has no line in the report (`format_detection_report`), and no text
of its own. Every text of a result is written between blanks, brackets, colons and the ends of its
line, so a word with letters only stands in a report if it stands in one of the texts or in what is
written around them. The word `None` is written in one place: behind the name of a bytecode whose
line is not known.

* `RoleVariable.texts`, …, `Result.texts` — all texts that the parts of a result hold.
* `Quiet` — texts that do not mention `None`.
* `Bytecode.isUnplaced` — the bytecode has a name, and no line.

Results:
* `quiet_roleLines`, …, `quiet_regionSections`: the lines of a part are quiet if its texts are.
* `any_bytecodeLines`: those of the shared bytecode are, unless it has a name and no line.
* `report_mentions_none_iff`: when a report mentions `None`.
-/

namespace VmScan.Detection

open VmScan.Text

/-! ## Texts -/

/-- The texts of a variable in a role. -/
def RoleVariable.texts (role : RoleVariable) : List String :=
  role.name.toList ++ [role.reasoning]

/-- The texts of the entry of the loop. -/
def LoopEntry.texts (entry : LoopEntry) : List String :=
  [entry.description]

/-- The texts of the statement that fetches the opcode. -/
def Breakpoint.texts (point : Breakpoint) : List String :=
  point.opcodeRead.toList ++ [point.description]

/-- The texts of the parts of a machine. -/
def Machine.texts (machine : Machine) : List String :=
  machine.instructionPointer.texts ++ machine.stackPointer.texts ++ machine.virtualStack.texts
    ++ machine.bytecodeArray.texts ++ machine.loopEntry.toList.flatMap (·.texts)
    ++ machine.breakpoint.toList.flatMap (·.texts)

/-- The texts of the single entry point. -/
def EntryPoint.texts (entry : EntryPoint) : List String :=
  [entry.description]

/-- The texts of a region. -/
def Region.texts (region : Region) : List String :=
  [region.description] ++ region.machine.toList.flatMap (·.texts)
    ++ region.entryPoint.toList.flatMap (·.texts)

/-- The texts of the shared bytecode. -/
def Bytecode.texts (bytecode : Bytecode) : List String :=
  bytecode.name.toList ++ bytecode.localName.toList ++ bytecode.transform.toList
    ++ bytecode.structureDescription.toList ++ [bytecode.description]

/-- The texts of a summary. -/
def Summary.texts : Summary → List String
  | .plain text => [text]
  | .advised overall recommendation => [overall, recommendation]

/-- All texts of a result. -/
def Result.texts (result : Result) : List String :=
  result.summary.texts ++ result.bytecode.toList.flatMap (·.texts)
    ++ result.regions.flatMap (·.texts)

/-! ## Quiet texts -/

/-- None of the texts mentions `None`. -/
def Quiet (texts : List String) : Prop :=
  ∀ text ∈ texts, mentions text "None" = false

@[simp] theorem quiet_nil : Quiet [] := nofun

@[simp] theorem quiet_cons {text : String} {texts : List String} :
    Quiet (text :: texts) ↔ mentions text "None" = false ∧ Quiet texts :=
  List.forall_mem_cons

@[simp] theorem quiet_append {texts others : List String} :
    Quiet (texts ++ others) ↔ Quiet texts ∧ Quiet others :=
  List.forall_mem_append

theorem Quiet.of_flatMap {α : Type} {texts : α → List String} {row : List α} {a : α}
    (h : Quiet (row.flatMap texts)) (ha : a ∈ row) : Quiet (texts a) := fun text ht =>
  h text (List.mem_flatMap_of_mem ha ht)

theorem any_eq_false_of_quiet {texts : List String} (h : Quiet texts) :
    texts.any (mentions · "None") = false :=
  List.any_eq_false.mpr fun text ht => Bool.eq_false_iff.mp (h text ht)

theorem quiet_getD {text : Option String} (h : Quiet text.toList) :
    mentions (text.getD "") "None" = false := by
  cases text with
  | none => rfl
  | some text => exact h text (List.mem_singleton.mpr rfl)

/-- The lines of a part that may be absent are quiet if those of the part are. -/
theorem quiet_getD_map {α : Type} {texts lines : α → List String} {part : Option α}
    (hpart : ∀ a, Quiet (texts a) → Quiet (lines a)) (h : Quiet (part.toList.flatMap texts)) :
    Quiet ((part.map lines).getD []) := by
  cases part with
  | none => exact quiet_nil
  | some a => exact hpart a (h.of_flatMap (List.mem_singleton.mpr rfl))

/-! ## Pieces of lines -/

theorem toString_text (text : String) : toString text = text := rfl

/-- Neither digits nor a sign are letters of the word. -/
theorem mentions_digits {text : String} (h : ∀ c ∈ text.toList, c = '-' ∨ c.isDigit = true) :
    mentions text "None" = false := by
  have hletters : ("None".toList.any fun c => c = '-' || c.isDigit) = false := by decide
  refine mentions_eq_false_of_forall (by decide) fun c hc hletter => ?_
  exact List.any_eq_false.mp hletters c hletter (by simpa using h c hc)

theorem mentions_int (n : Int) : mentions (toString n) "None" = false :=
  mentions_digits fun _ hc => Number.eq_minus_or_isDigit_of_mem hc

theorem mentions_nat (n : Nat) : mentions (toString n) "None" = false :=
  mentions_digits fun _ hc => Number.eq_minus_or_isDigit_of_mem (n := (n : Int)) hc

/-- A place is written only if both of its coordinates are known, between borders of its own. -/
theorem mentions_before_sourcePlace (text : String) (line column : Option Int) :
    mentions (text ++ sourcePlace line column) "None" = mentions text "None" := by
  unfold sourcePlace
  split
  · simp only [← String.append_assoc]
    simp (disch := decide) only [mentions_around_border, mentions_before_border, toString_text,
      mentions_int, Bool.or_false]
  · rw [String.append_empty]

theorem mentions_counted (count : Int) {noun ending : String} (hone : mentions noun "None" = false)
    (hmany : mentions (noun ++ ending) "None" = false) :
    mentions (counted count noun ending) "None" = false := by
  unfold counted
  split
  · rw [String.append_assoc]
    simp (disch := decide) only [mentions_around_border, toString_text, mentions_int, hmany,
      Bool.or_false]
  · simp (disch := decide) only [String.append_empty, mentions_around_border, toString_text,
      mentions_int, hone, Bool.or_false]

/-- A line number that is absent is written as the word. -/
theorem mentions_lineNumberText (line : Option Int) :
    mentions (lineNumberText line) "None" = line.isNone := by
  cases line with
  | none => decide
  | some n => exact mentions_int n

theorem quiet_optionalLine {label : String} (hlabel : isBorder "None" label = true)
    {text : Option String} (h : Quiet text.toList) : Quiet (optionalLine label text) := by
  cases text with
  | none => exact quiet_nil
  | some text =>
    unfold optionalLine
    simp only
    split
    · exact quiet_nil
    · rw [quiet_cons, mentions_behind_border hlabel]
      exact ⟨h text (List.mem_singleton.mpr rfl), quiet_nil⟩

theorem any_optionalLine {label : String} (hlabel : isBorder "None" label = true)
    {text : Option String} (h : Quiet text.toList) :
    (optionalLine label text).any (mentions · "None") = false :=
  any_eq_false_of_quiet (quiet_optionalLine hlabel h)

/-! ## The lines of the parts -/

theorem quiet_roleLines {label : String} (hlabel : mentions label "None" = false)
    {role : RoleVariable} (h : Quiet role.texts) : Quiet (role.reportLines label) := by
  obtain ⟨hname, hreasoning⟩ := quiet_append.mp h
  have hconfidence : mentions role.confidence.label "None" = false := by
    cases role.confidence <;> decide
  unfold RoleVariable.reportLines
  simp only
  split
  · exact quiet_nil
  · simp (disch := decide) only [quiet_cons, mentions_around_border, mentions_behind_border,
      mentions_before_border, mentions_before_sourcePlace, toString_text, quiet_getD hname, hlabel,
      hconfidence, (quiet_cons.mp hreasoning).1, Bool.or_false, quiet_nil, and_self]

theorem quiet_loopEntryLines (entry : LoopEntry) (h : Quiet entry.texts) :
    Quiet entry.reportLines := by
  unfold LoopEntry.reportLines
  refine quiet_cons.mpr ⟨?_, quiet_optionalLine (by decide) h⟩
  simp (disch := decide) only [mentions_behind_border, mentions_before_sourcePlace, toString_text,
    mentions_int]

theorem quiet_breakpointLines (point : Breakpoint) (h : Quiet point.texts) :
    Quiet point.reportLines := by
  obtain ⟨hread, hdescription⟩ := quiet_append.mp h
  unfold Breakpoint.reportLines
  refine quiet_cons.mpr ⟨?_, quiet_append.mpr ⟨quiet_optionalLine (by decide) hread,
    quiet_optionalLine (by decide) hdescription⟩⟩
  simp (disch := decide) only [mentions_behind_border, mentions_before_sourcePlace, toString_text,
    mentions_int]

theorem quiet_machineLines (machine : Machine) (h : Quiet machine.texts) :
    Quiet machine.reportLines := by
  simp only [Machine.texts, quiet_append] at h
  obtain ⟨⟨⟨⟨⟨hpointer, hstackPointer⟩, hstack⟩, hbytecode⟩, hentry⟩, hpoint⟩ := h
  have htitle : Quiet ["  VM Components:"] := quiet_cons.mpr ⟨by decide, quiet_nil⟩
  simp only [Machine.reportLines, quiet_append]
  exact ⟨⟨⟨⟨⟨⟨htitle, quiet_roleLines (by decide) hpointer⟩,
    quiet_roleLines (by decide) hstackPointer⟩, quiet_roleLines (by decide) hstack⟩,
    quiet_roleLines (by decide) hbytecode⟩, quiet_getD_map quiet_loopEntryLines hentry⟩,
    quiet_getD_map quiet_breakpointLines hpoint⟩

theorem quiet_entryPointLines (entry : EntryPoint) (h : Quiet entry.texts) :
    Quiet entry.reportLines := by
  simp (disch := decide) only [EntryPoint.reportLines, quiet_cons, mentions_behind_border,
    toString_text, mentions_int, (quiet_cons.mp h).1, quiet_nil, and_self]

theorem quiet_regionLines (number : Nat) (region : Region) (h : Quiet region.texts) :
    Quiet (region.reportLines number) := by
  simp only [Region.texts, quiet_append, quiet_cons] at h
  obtain ⟨⟨⟨hdescription, -⟩, hmachine⟩, hentry⟩ := h
  have hconfidence : mentions region.confidence.label "None" = false := by
    cases region.confidence <;> decide
  have hkind : mentions region.kind.label "None" = false := by
    cases region.kind <;> decide
  unfold Region.reportLines
  refine quiet_append.mpr ⟨quiet_append.mpr ⟨?_, quiet_getD_map quiet_machineLines hmachine⟩, ?_⟩
  · simp (disch := decide) only [quiet_cons, mentions_around_border, mentions_behind_border,
      mentions_before_border, toString_text, mentions_int, mentions_nat, hconfidence, hkind,
      hdescription, Bool.or_false, quiet_nil, and_self]
  · split
    · exact quiet_nil
    · exact quiet_getD_map quiet_entryPointLines hentry

theorem quiet_summaryLines (summary : Summary) (h : Quiet summary.texts) :
    Quiet summary.reportLines := by
  cases summary with
  | plain text =>
    simp (disch := decide) only [Summary.reportLines, quiet_cons, mentions_behind_border,
      toString_text, (quiet_cons.mp h).1, quiet_nil, and_self]
  | advised overall recommendation =>
    obtain ⟨hoverall, hrecommendation⟩ := quiet_cons.mp h
    simp (disch := decide) only [Summary.reportLines, quiet_cons, mentions_behind_border,
      toString_text, hoverall, (quiet_cons.mp hrecommendation).1, quiet_nil, and_self]

theorem quiet_regionSections {regions : List Region} (h : Quiet (regions.flatMap (·.texts))) :
    Quiet (regionSections regions) := by
  unfold regionSections
  split
  · exact quiet_cons.mpr ⟨by decide, quiet_nil⟩
  · refine quiet_cons.mpr ⟨?_, quiet_cons.mpr ⟨rfl, fun text ht => ?_⟩⟩
    · simp (disch := decide) only [mentions_behind_border, mentions_before_border, toString_text,
        mentions_counted]
    · obtain ⟨lines, hlines, hmem⟩ := List.mem_flatten.mp ht
      obtain ⟨index, hindex, rfl⟩ := List.mem_mapIdx.mp hlines
      have hregion := quiet_regionLines (index + 1) regions[index]
        (h.of_flatMap (List.getElem_mem hindex))
      exact quiet_append.mpr ⟨hregion, quiet_cons.mpr ⟨rfl, quiet_nil⟩⟩ text hmem

/-- Whether the bytecode has a name, but no line at which it is defined. -/
def Bytecode.isUnplaced (bytecode : Bytecode) : Bool :=
  bytecode.isNamed && bytecode.definitionLine.isNone

theorem isUnplaced_iff {bytecode : Bytecode} : bytecode.isUnplaced = true ↔
    (∃ name, bytecode.name = some name ∧ name ≠ "") ∧ bytecode.definitionLine = none := by
  rw [Bytecode.isUnplaced, Bytecode.isNamed, Bool.and_eq_true, Option.any_eq_true,
    Option.isNone_iff_eq_none]
  simp only [decide_eq_true_eq]

theorem isNamed_eq (bytecode : Bytecode) :
    bytecode.isNamed = decide (bytecode.name.getD "" ≠ "") := by
  unfold Bytecode.isNamed
  cases bytecode.name <;> simp

/-- **The one line that mentions an absent part.** The lines of the shared bytecode are quiet unless
it has a name and its line is not known. -/
theorem any_bytecodeLines {bytecode : Bytecode} (h : Quiet bytecode.texts) :
    bytecode.reportLines.any (mentions · "None") = bytecode.isUnplaced := by
  simp only [Bytecode.texts, quiet_append] at h
  obtain ⟨⟨⟨⟨hname, hlocal⟩, htransform⟩, hstructure⟩, hdescription⟩ := h
  have hdescription : Quiet (some bytecode.description).toList := hdescription
  have hlayout : Quiet (bytecode.layout.map (·.label)).toList := by
    cases bytecode.layout with
    | none => exact quiet_nil
    | some layout => exact quiet_cons.mpr ⟨by cases layout <;> decide, quiet_nil⟩
  have htitle : mentions "Global Bytecode:" "None" = false := by decide
  unfold Bytecode.reportLines
  simp only [List.any_append, List.any_cons, List.any_nil, htitle]
  rw [any_optionalLine (by decide) hlayout, any_optionalLine (by decide) hlocal,
    any_optionalLine (by decide) htransform, any_optionalLine (by decide) hstructure,
    any_optionalLine (by decide) hdescription, Bytecode.isUnplaced, isNamed_eq]
  simp only [Bool.or_false, Bool.false_or]
  split
  · next hempty =>
    rw [decide_eq_false (not_not_intro hempty), Bool.false_and]
    rfl
  · next hgiven =>
    simp (disch := decide) only [List.any_cons, List.any_nil, mentions_around_border,
      mentions_behind_border, mentions_before_border, mentions_before_sourcePlace, toString_text,
      quiet_getD hname, mentions_lineNumberText, Bool.or_false, Bool.false_or]
    rw [decide_eq_true hgiven, Bool.true_and]

/-! ## The report -/

theorem quiet_headingLines {path : String} (hpath : mentions path "None" = false)
    (totalLines batchCount : Int) :
    Quiet ["=== JSVMP Dispatcher Detection Result ===",
      s!"File: {path} ({totalLines} lines, " ++ counted batchCount "batch" "es" ++ ")", ""] := by
  have hcount : mentions (counted batchCount "batch" "es") "None" = false :=
    mentions_counted batchCount (by decide) (by decide)
  refine quiet_cons.mpr ⟨by decide, quiet_cons.mpr ⟨?_, quiet_cons.mpr ⟨rfl, quiet_nil⟩⟩⟩
  simp (disch := decide) only [mentions_around_border, mentions_behind_border,
    mentions_before_border, toString_text, hpath, hcount, mentions_int, Bool.or_false]

theorem any_bytecodeSection {bytecode : Option Bytecode}
    (h : Quiet (bytecode.toList.flatMap (·.texts))) :
    ((bytecode.map (·.reportLines ++ [""])).getD []).any (mentions · "None")
      = bytecode.any (·.isUnplaced) := by
  cases bytecode with
  | none => rfl
  | some bytecode =>
    have hlines := any_bytecodeLines (h.of_flatMap (List.mem_singleton.mpr rfl))
    have hlast : [""].any (mentions · "None") = false := rfl
    rw [Option.map_some, Option.getD_some, List.any_append, hlines, hlast, Bool.or_false,
      Option.any_some]

/-- What decides whether a report mentions `None`, if no text of the result does. -/
theorem mentions_report {result : Result} {path : String} (htexts : Quiet result.texts)
    (hpath : mentions path "None" = false) (totalLines batchCount : Int) :
    mentions (result.report path totalLines batchCount) "None"
      = result.bytecode.any (·.isUnplaced) := by
  obtain ⟨hfront, hregions⟩ := quiet_append.mp htexts
  obtain ⟨hsummary, hbytecode⟩ := quiet_append.mp hfront
  have hblank : Quiet [""] := quiet_cons.mpr ⟨rfl, quiet_nil⟩
  have hopening := quiet_append.mpr ⟨quiet_append.mpr
    ⟨quiet_headingLines hpath totalLines batchCount, quiet_summaryLines _ hsummary⟩, hblank⟩
  rw [Result.report, mentions_unlines (by decide) (by decide), Result.reportLines,
    List.any_append, List.any_append, any_eq_false_of_quiet hopening,
    any_bytecodeSection hbytecode, any_eq_false_of_quiet (quiet_regionSections hregions),
    Bool.or_false, Bool.false_or]

/-- **A report mentions `None` for one part that is absent.** For a result whose texts do not
mention `None`, reported for a path that does not, the report mentions it exactly if the shared
bytecode has a name and no line at which it is defined, whatever other parts are present or absent,
and for any number of regions. -/
theorem report_mentions_none_iff (result : Result) (path : String) (totalLines batchCount : Int)
    (htexts : ∀ text ∈ result.texts, mentions text "None" = false)
    (hpath : mentions path "None" = false) :
    mentions (result.report path totalLines batchCount) "None" = true ↔
      ∃ bytecode, result.bytecode = some bytecode ∧
        (∃ name, bytecode.name = some name ∧ name ≠ "") ∧ bytecode.definitionLine = none := by
  rw [mentions_report htexts hpath, Option.any_eq_true]
  simp only [isUnplaced_iff]

/-- A result whose bytecode has a name, with a region of which little is known: one role has a name,
and the hooks have a line. -/
def sparseResult (definitionLine : Option Int) : Result where
  summary := .plain "vm"
  bytecode := some { name := some "table", definitionLine }
  regions :=
    let machine : Machine := {
      instructionPointer := { name := some "ip" }
      stackPointer := {}
      virtualStack := { sourceLine := some 2 }
      bytecodeArray := {}
      loopEntry := some { line := 4 }
      breakpoint := some { line := 5, sourceColumn := some 7 } }
    [{ start := 3, finish := 9, kind := .switchDispatcher, confidence := .high,
       description := "loop", machine := some machine }]

theorem quiet_sparseResult (line : Option Int) : Quiet (sparseResult line).texts := by
  have htexts : (sparseResult line).texts = (sparseResult none).texts := rfl
  have hquiet : ∀ text ∈ (sparseResult none).texts, mentions text "None" = false := by decide
  exact htexts ▸ hquiet

/-- Of two results with the same texts, the one whose bytecode has no line is reported with the
word, the other one without it. -/
theorem report_mentions_none_iff_sparse :
    (∀ line, ∀ text ∈ (sparseResult line).texts, mentions text "None" = false) ∧
      mentions "a.js" "None" = false ∧
      mentions ((sparseResult none).report "a.js" 9 1) "None" = true ∧
      mentions ((sparseResult (some 2)).report "a.js" 9 1) "None" = false := by
  have hpath : mentions "a.js" "None" = false := by decide
  have hunplaced := report_mentions_none_iff _ "a.js" 9 1 (quiet_sparseResult none) hpath
  have hplaced := report_mentions_none_iff _ "a.js" 9 1 (quiet_sparseResult (some 2)) hpath
  refine ⟨quiet_sparseResult, hpath, hunplaced.mpr ⟨_, rfl, ⟨_, rfl, by decide⟩, rfl⟩, ?_⟩
  rw [Bool.eq_false_iff]
  intro h
  obtain ⟨bytecode, hbytecode, -, hnone⟩ := hplaced.mp h
  rw [← Option.some.inj hbytecode] at hnone
  cases hnone

/-- An absent part can leave a trace: the line of a bytecode that has a name. -/
theorem not_report_quiet :
    ¬ ∀ (result : Result) (path : String) (totalLines batchCount : Int),
      (∀ text ∈ result.texts, mentions text "None" = false) → mentions path "None" = false →
        mentions (result.report path totalLines batchCount) "None" = false := by
  intro h
  have hpath : mentions "a.js" "None" = false := by decide
  have hquiet := h (sparseResult none) "a.js" 9 1 (quiet_sparseResult none) hpath
  rw [mentions_report (quiet_sparseResult none) hpath] at hquiet
  cases hquiet

end VmScan.Detection
