import VmScan.Proofs.Detection.Field

/-!
# What a response must hold

The grammar of responses, stated apart from the reading of them, and the proof that `parse`
(`parse_detection_result`) takes exactly the responses of the grammar.

* `Describes` — an element of the list of regions, and the region that it describes.
* `Refused` — an element that describes no region, and the first check that it fails.
* `Accepted` — a decoded response with a summary and with regions.

Results:
* `parseRegion_spec`: an element is read as the region that it describes, or refused for the first
  check that it fails.
* `parse_grammar`: a response is taken exactly if it is accepted; the regions are those that the
  elements describe, one for one; and a refusal names the first element that describes none.
-/

namespace VmScan.Detection

open VmScan.Json

/-! ## One region -/

/-- The fields of an object are those of the region. -/
structure Fields (members : Members) (region : Region) : Prop where
  start : HasLine members "start_line" "start" region.start
  finish : HasLine members "end_line" "end" region.finish
  kind : HasText members "type" region.kind.label
  confidence : HasText members "confidence" region.confidence.label
  description : HasText members "description" region.description
  ordered : region.start ≤ region.finish

/-- The value is an object with the fields of the region. -/
def Describes (value : Value) (region : Region) : Prop :=
  ∃ members, value = .object members ∧ Fields members region

/-- The lines of a region can be read. -/
def HasLines (members : Members) (start finish : Int) : Prop :=
  HasLine members "start_line" "start" start ∧ HasLine members "end_line" "end" finish

/-- The fields of text that are checked before this one. -/
def TextField.before : TextField → List TextField
  | .kind => []
  | .confidence => [.kind]
  | .description => [.kind, .confidence]

/-- The texts of a region can be read. -/
def HasTexts (members : Members) (fields : List TextField) : Prop :=
  ∀ field ∈ fields, ∃ text, HasText members field.name text

/-- The value describes no region, and this is the first check that it fails. -/
inductive Refused : Value → RegionFault → Prop where
  | notObject {value : Value} (h : ∀ members, value ≠ .object members) : Refused value .notObject
  | start {members : Members} {fault : RegionFault} (h : LineRefused members .first fault) :
      Refused (.object members) fault
  | finish {members : Members} {fault : RegionFault} {start : Int}
      (hstart : HasLine members "start_line" "start" start)
      (h : LineRefused members .last fault) : Refused (.object members) fault
  | text {members : Members} {field : TextField} {start finish : Int}
      (hlines : HasLines members start finish) (hbefore : HasTexts members field.before)
      (h : ∀ text, ¬ HasText members field.name text) :
      Refused (.object members) (.missingText field)
  | kind {members : Members} {label : String} {start finish : Int}
      (hlines : HasLines members start finish)
      (htexts : HasTexts members [.kind, .confidence, .description])
      (hlabel : HasText members "type" label) (h : ∀ kind : Structure, kind.label ≠ label) :
      Refused (.object members) (.unknownLabel .kind label (Structure.all.map (·.label)))
  | confidence {members : Members} {label : String} {kind : Structure} {start finish : Int}
      (hlines : HasLines members start finish)
      (htexts : HasTexts members [.kind, .confidence, .description])
      (hkind : HasText members "type" kind.label)
      (hlabel : HasText members "confidence" label)
      (h : ∀ confidence : Confidence, confidence.label ≠ label) :
      Refused (.object members) (.unknownLabel .confidence label (Confidence.all.map (·.label)))
  | reversed {members : Members} {kind : Structure} {confidence : Confidence}
      {start finish : Int} (hlines : HasLines members start finish)
      (htexts : HasTexts members [.kind, .confidence, .description])
      (hkind : HasText members "type" kind.label)
      (hconfidence : HasText members "confidence" confidence.label) (h : finish < start) :
      Refused (.object members) (.reversed start finish)

theorem HasText.unique {members : Members} {name a b : String} (ha : HasText members name a)
    (hb : HasText members name b) : a = b :=
  Value.string.inj (Option.some.inj (ha.symm.trans hb))

/-- What is refused describes no region. -/
theorem Refused.not_describes {value : Value} {fault : RegionFault} (h : Refused value fault)
    (region : Region) : ¬ Describes value region := by
  rintro ⟨members, rfl, hfields⟩
  cases h with
  | notObject h => exact h members rfl
  | start h => exact h.not_hasLine _ hfields.start
  | finish hstart h => exact h.not_hasLine _ hfields.finish
  | @text _ field _ _ hlines hbefore h =>
    cases field with
    | kind => exact h _ hfields.kind
    | confidence => exact h _ hfields.confidence
    | description => exact h _ hfields.description
  | kind hlines htexts hlabel h => exact h _ (hfields.kind.unique hlabel)
  | confidence hlines htexts hkind hlabel h => exact h _ (hfields.confidence.unique hlabel)
  | reversed hlines htexts hkind hconfidence h =>
    have hstart := hlines.1.unique hfields.start
    have hfinish := hlines.2.unique hfields.finish
    have hordered := hfields.ordered
    omega

theorem checkedRegion_spec {members : Members} {start finish : Int}
    {kindLabel confidenceLabel description : String} (hlines : HasLines members start finish)
    (hkind : HasText members "type" kindLabel)
    (hconfidence : HasText members "confidence" confidenceLabel)
    (hdescription : HasText members "description" description) :
    (∃ region, checkedRegion members start finish kindLabel confidenceLabel description = .ok region
        ∧ Describes (.object members) region) ∨
      ∃ fault, checkedRegion members start finish kindLabel confidenceLabel description
        = .error fault ∧ Refused (.object members) fault := by
  have htexts : HasTexts members [.kind, .confidence, .description] := by
    intro field _
    cases field with
    | kind => exact ⟨_, hkind⟩
    | confidence => exact ⟨_, hconfidence⟩
    | description => exact ⟨_, hdescription⟩
  unfold checkedRegion
  rcases requiredLabel_spec .kind kindLabel Structure.ofLabel? (Structure.all.map (·.label))
    with ⟨kind, hread, hlabel⟩ | ⟨hread, hno⟩ <;> rw [hread]
  swap
  · exact Or.inr ⟨_, rfl, .kind hlines htexts hkind fun kind h =>
      hno kind ((Structure.ofLabel?_eq_some_iff _ kind).mpr h)⟩
  obtain rfl := (Structure.ofLabel?_eq_some_iff _ kind).mp hlabel
  rcases requiredLabel_spec .confidence confidenceLabel Confidence.ofLabel?
    (Confidence.all.map (·.label)) with ⟨confidence, hread, hlabel⟩ | ⟨hread, hno⟩ <;> rw [hread]
  swap
  · exact Or.inr ⟨_, rfl, .confidence hlines htexts hkind hconfidence fun confidence h =>
      hno confidence ((Confidence.ofLabel?_eq_some_iff _ confidence).mpr h)⟩
  obtain rfl := (Confidence.ofLabel?_eq_some_iff _ confidence).mp hlabel
  by_cases horder : finish < start
  · exact Or.inr ⟨_, if_pos horder, .reversed hlines htexts hkind hconfidence horder⟩
  · exact Or.inl ⟨_, if_neg horder, members, rfl,
      ⟨hlines.1, hlines.2, hkind, hconfidence, hdescription, Int.not_lt.mp horder⟩⟩

/-- **An element is read as the region that it describes, or refused for the first check that it
fails.** -/
theorem parseRegion_spec (value : Value) :
    (∃ region, parseRegion value = .ok region ∧ Describes value region) ∨
      ∃ fault, parseRegion value = .error fault ∧ Refused value fault := by
  by_cases hobject : ∃ members, value = .object members
  swap
  · refine Or.inr ⟨.notObject, ?_, .notObject fun members h => hobject ⟨members, h⟩⟩
    cases value with
    | object members => exact absurd ⟨members, rfl⟩ hobject
    | _ => rfl
  obtain ⟨members, rfl⟩ := hobject
  simp only [parseRegion, bind, Except.bind]
  rcases requiredLine_spec members .first with ⟨start, hread, hstart⟩ | ⟨fault, hread, hfault⟩ <;>
    rw [hread]
  swap
  · exact Or.inr ⟨fault, rfl, .start hfault⟩
  rcases requiredLine_spec members .last with ⟨finish, hread, hfinish⟩ | ⟨fault, hread, hfault⟩ <;>
    simp only [hread]
  swap
  · exact Or.inr ⟨fault, rfl, .finish hstart hfault⟩
  have hlines : HasLines members start finish := ⟨hstart, hfinish⟩
  rcases requiredText_spec members .kind with ⟨kindLabel, hread, hkind⟩ | ⟨hread, hno⟩ <;>
    simp only [hread]
  swap
  · exact Or.inr ⟨_, rfl, .text hlines (fun field => nofun) hno⟩
  rcases requiredText_spec members .confidence with ⟨confidenceLabel, hread, hconfidence⟩ |
    ⟨hread, hno⟩ <;> simp only [hread]
  swap
  · refine Or.inr ⟨_, rfl, .text hlines (fun field hfield => ?_) hno⟩
    rw [List.mem_singleton.mp hfield]
    exact ⟨_, hkind⟩
  rcases requiredText_spec members .description with ⟨description, hread, hdescription⟩ |
    ⟨hread, hno⟩ <;> simp only [hread]
  swap
  · refine Or.inr ⟨_, rfl, .text hlines (fun field hfield => ?_) hno⟩
    rcases List.mem_pair.mp hfield with rfl | rfl
    · exact ⟨_, hkind⟩
    · exact ⟨_, hconfidence⟩
  exact checkedRegion_spec hlines hkind hconfidence hdescription

/-- A null gives way to the older name, and a number may have an exponent. -/
example : (parseRegion (.object [("start_line", .null), ("start", .int 3),
      ("end_line", .float (.finite false 5 1)), ("type", .string "Switch Dispatcher"),
      ("confidence", .string "high"), ("description", .string "")])).toOption.map
    (fun region => (region.start, region.finish, region.kind, region.confidence))
      = some (3, 10, .switchDispatcher, .high) := by
  decide +kernel

theorem describes_of_parseRegion {value : Value} {region : Region}
    (h : parseRegion value = .ok region) : Describes value region := by
  rcases parseRegion_spec value with ⟨other, hread, hdescribes⟩ | ⟨fault, hread, -⟩
  · rw [hread] at h
    exact Except.ok.inj h ▸ hdescribes
  · rw [hread] at h
    cases h

theorem exists_parseRegion {value : Value} {region : Region} (h : Describes value region) :
    ∃ other, parseRegion value = .ok other := by
  rcases parseRegion_spec value with ⟨other, hread, -⟩ | ⟨fault, -, hrefused⟩
  · exact ⟨other, hread⟩
  · exact absurd h (hrefused.not_describes region)

theorem exists_parseRegion_error {value : Value} (h : ∀ region, ¬ Describes value region) :
    ∃ fault, parseRegion value = .error fault ∧ Refused value fault := by
  rcases parseRegion_spec value with ⟨region, -, hdescribes⟩ | hfault
  · exact absurd hdescribes (h region)
  · exact hfault

/-! ## The list of regions -/

/-- The regions that are read are those that the elements describe, one for one. -/
theorem describes_of_parseRegions {index : Nat} {values : List Value} {regions : List Region}
    (h : parseRegions index values = .ok regions) : List.Forall₂ Describes values regions := by
  induction values generalizing index regions with
  | nil =>
    obtain rfl := Except.ok.inj h
    exact .nil
  | cons value values ih =>
    unfold parseRegions at h
    cases hvalue : parseRegion value with
    | error fault => rw [hvalue] at h; cases h
    | ok region =>
      simp only [hvalue] at h
      cases hvalues : parseRegions (index + 1) values with
      | error rejection => rw [hvalues] at h; cases h
      | ok rest =>
        rw [hvalues] at h
        obtain rfl := Except.ok.inj h
        exact .cons (describes_of_parseRegion hvalue) (ih hvalues)

theorem exists_describes_of_mem {values : List Value} {regions : List Region}
    (h : List.Forall₂ Describes values regions) {value : Value} (hvalue : value ∈ values) :
    ∃ region, Describes value region := by
  induction h with
  | nil => cases hvalue
  | @cons first region _ _ hfirst hrest ih =>
    rcases List.mem_cons.mp hvalue with rfl | hmem
    · exact ⟨region, hfirst⟩
    · exact ih hmem

/-- Elements that all describe regions are read. -/
theorem exists_parseRegions {values : List Value}
    (h : ∀ value ∈ values, ∃ region, Describes value region) (index : Nat) :
    ∃ regions, parseRegions index values = .ok regions := by
  induction values generalizing index with
  | nil => exact ⟨[], rfl⟩
  | cons value values ih =>
    obtain ⟨region, hregion⟩ := h value List.mem_cons_self
    obtain ⟨other, hread⟩ := exists_parseRegion hregion
    obtain ⟨rest, hrest⟩ := ih (fun v hv => h v (List.mem_cons_of_mem value hv)) (index + 1)
    exact ⟨other :: rest, by rw [parseRegions, hread, hrest]; rfl⟩

/-- The first element that describes no region is refused by its number. -/
theorem parseRegions_error {front back : List Value} {value : Value}
    (hfront : ∀ other ∈ front, ∃ region, Describes other region)
    (hvalue : ∀ region, ¬ Describes value region) (index : Nat) :
    ∃ fault, Refused value fault ∧
      parseRegions index (front ++ value :: back)
        = .error (.region (index + front.length) fault) := by
  induction front generalizing index with
  | nil =>
    obtain ⟨fault, hread, hrefused⟩ := exists_parseRegion_error hvalue
    exact ⟨fault, hrefused, by rw [List.nil_append, parseRegions, hread]; rfl⟩
  | cons first front ih =>
    obtain ⟨region, hregion⟩ := hfront first List.mem_cons_self
    obtain ⟨other, hread⟩ := exists_parseRegion hregion
    obtain ⟨fault, hrefused, hrest⟩ :=
      ih (fun v hv => hfront v (List.mem_cons_of_mem first hv)) (index + 1)
    refine ⟨fault, hrefused, ?_⟩
    rw [List.cons_append, parseRegions, hread, hrest, List.length_cons, Nat.add_assoc,
      Nat.add_comm 1]
    rfl

/-! ## Decoded responses -/

/-- The response has a summary: one text, or an object with a description and advice. -/
def HasSummary (members : Members) : Prop :=
  (∃ text, HasText members "summary" text) ∨
    ∃ parts overall recommendation, get? members "summary" = some (.object parts) ∧
      HasText parts "overall_description" overall ∧
      HasText parts "debugging_recommendation" recommendation

/-- A decoded response with a summary and a list of elements that all describe regions. -/
def Accepted (value : Value) : Prop :=
  ∃ members elements, value = .object members ∧ HasSummary members ∧
    get? members "regions" = some (.array elements) ∧
    ∀ element ∈ elements, ∃ region, Describes element region

theorem exists_parseSummary_iff (members : Members) :
    (∃ summary, parseSummary (get? members "summary") = .ok summary) ↔ HasSummary members := by
  unfold HasSummary HasText
  constructor
  · rintro ⟨summary, h⟩
    cases hvalue : get? members "summary" with
    | none => rw [hvalue] at h; cases h
    | some value =>
      rw [hvalue] at h
      cases value with
      | string text => exact Or.inl ⟨text, rfl⟩
      | object parts =>
        cases hoverall : textMember? parts "overall_description" with
        | none => simp only [parseSummary, hoverall] at h; cases h
        | some overall =>
          cases hadvice : textMember? parts "debugging_recommendation" with
          | none => simp only [parseSummary, hoverall, hadvice] at h; cases h
          | some recommendation =>
            exact Or.inr ⟨parts, overall, recommendation, rfl,
              (textMember?_eq_some_iff parts _ overall).mp hoverall,
              (textMember?_eq_some_iff parts _ recommendation).mp hadvice⟩
      | _ => cases h
  · rintro (⟨text, h⟩ | ⟨parts, overall, recommendation, h, hoverall, hadvice⟩)
    · exact ⟨.plain text, by rw [h]; rfl⟩
    · refine ⟨.advised overall recommendation, ?_⟩
      simp only [h, parseSummary, (textMember?_eq_some_iff parts _ overall).mpr hoverall,
        (textMember?_eq_some_iff parts _ recommendation).mpr hadvice]

/-- A result comes from a list of elements, with the regions that they are read as. -/
theorem parseValue_eq_ok {value : Value} {result : Result} (h : parseValue value = .ok result) :
    ∃ members elements, value = .object members ∧ HasSummary members ∧
      get? members "regions" = some (.array elements) ∧
      parseRegions 0 elements = .ok result.regions := by
  cases value with
  | object members =>
    cases hsummary : parseSummary (get? members "summary") with
    | error rejection => rw [parseValue, hsummary] at h; cases h
    | ok summary =>
      have hhas := (exists_parseSummary_iff members).mp ⟨summary, hsummary⟩
      simp only [parseValue, hsummary, bind, Except.bind] at h
      cases hregions : get? members "regions" with
      | none => rw [hregions] at h; cases h
      | some list =>
        rw [hregions] at h
        cases list with
        | array elements =>
          cases hread : parseRegions 0 elements with
          | error rejection => simp only [hread] at h; cases h
          | ok regions =>
            simp only [hread] at h
            obtain rfl := Except.ok.inj h
            exact ⟨members, elements, rfl, hhas, hregions, hread⟩
        | _ => cases h
  | _ => cases h

/-- With a summary and a list, a response is read as its elements are. -/
theorem parseValue_object {members : Members} {elements : List Value}
    (hsummary : HasSummary members) (hregions : get? members "regions" = some (.array elements)) :
    ∃ summary, parseValue (.object members) = (parseRegions 0 elements).map fun regions =>
      { summary, regions, bytecode := (objectMember? members "global_bytecode").map bytecode } := by
  obtain ⟨summary, hread⟩ := (exists_parseSummary_iff members).mpr hsummary
  refine ⟨summary, ?_⟩
  simp only [parseValue, hread, hregions, bind, Except.bind]
  cases parseRegions 0 elements <;> rfl

theorem RegionFault.exists_message_eq (fault : RegionFault) (place : String) :
    ∃ rest, fault.message place = place ++ rest := by
  cases fault <;>
    simp only [RegionFault.message, toString, String.append_assoc, String.append_right_inj,
      exists_eq']

theorem Rejection.exists_message_eq (index : Nat) (fault : RegionFault) :
    ∃ rest, (Rejection.region index fault).message
      = s!"Invalid model response: regions[{index}]" ++ rest := by
  obtain ⟨rest, hrest⟩ := fault.exists_message_eq s!"regions[{index}]"
  refine ⟨rest, ?_⟩
  have hmessage : (Rejection.region index fault).message
      = "Invalid model response: " ++ fault.message s!"regions[{index}]" := rfl
  have hprefix : "Invalid model response: regions[" = "Invalid model response: " ++ "regions[" := by
    simp only [String.reduceAppend]
  rw [hmessage, hrest, hprefix]
  simp only [toString, String.append_assoc]

/-! ## Texts without a fence -/

theorem dropTrailingBlanks_cons {c : Char} (h : Text.isBlank c = false) (cs : List Char) :
    Text.dropTrailingBlanks (c :: cs) = c :: Text.dropTrailingBlanks cs := by
  have hlast : [c].dropWhile Text.isBlank = [c] := by
    rw [List.dropWhile_cons_of_neg (by simp [h])]
  rw [Text.dropTrailingBlanks, List.reverse_cons, List.dropWhile_append, hlast,
    Text.dropTrailingBlanks]
  split
  · next hempty =>
    rw [List.isEmpty_iff.mp hempty]
    rfl
  · rw [List.reverse_append]
    rfl

/-- A text that starts with no blank and no backtick is inside no fence. -/
theorem stripFence_cons {c : Char} (hblank : Text.isBlank c = false) (hfence : c ≠ '\x60')
    (cs : List Char) : stripFence (c :: cs) = c :: cs := by
  have hstrip : Text.strip (c :: cs) = c :: Text.dropTrailingBlanks cs := by
    rw [Text.strip, List.dropWhile_cons_of_neg (by simp [hblank])]
    exact dropTrailingBlanks_cons hblank cs
  unfold stripFence insideFence?
  rw [hstrip]
  split
  · next hopening => exact absurd (List.cons.inj hopening).1 hfence
  · rfl

/-! ## Whole responses -/

theorem parse_of_decode {runtime : Runtime} {response : String} {value : Value}
    (h : decode runtime (stripFence response.toList) = .ok value) :
    parse runtime response = parseValue value := by
  rw [parse]
  simp only [h]

theorem decode_of_parse {runtime : Runtime} {response : String} {result : Result}
    (h : parse runtime response = .ok result) :
    ∃ value,
      decode runtime (stripFence response.toList) = .ok value ∧ parseValue value = .ok result := by
  cases hdecode : decode runtime (stripFence response.toList) with
  | error stop => simp only [parse, hdecode] at h; cases h
  | ok value => exact ⟨value, rfl, (parse_of_decode hdecode).symm.trans h⟩

/-- **`parse` takes exactly the accepted responses, and keeps every region.** The regions of a
result are those that the elements describe, one for one. Where the summary and the list are there,
the first element that describes no region is named in the refusal, with the first check that it
fails. -/
theorem parse_grammar (runtime : Runtime) (response : String) :
    ((∃ result, parse runtime response = .ok result) ↔
      ∃ value, decode runtime (stripFence response.toList) = .ok value ∧ Accepted value) ∧
    (∀ result, parse runtime response = .ok result → ∃ members elements,
      decode runtime (stripFence response.toList) = .ok (.object members) ∧
      get? members "regions" = some (.array elements) ∧
      List.Forall₂ Describes elements result.regions) ∧
    (∀ members front element back,
      decode runtime (stripFence response.toList) = .ok (.object members) → HasSummary members →
      get? members "regions" = some (.array (front ++ element :: back)) →
      (∀ other ∈ front, ∃ region, Describes other region) →
      (∀ region, ¬ Describes element region) →
      ∃ fault, Refused element fault ∧
        parse runtime response = .error (.region front.length fault) ∧
        ∃ rest, (Rejection.region front.length fault).message
          = s!"Invalid model response: regions[{front.length}]" ++ rest) := by
  refine ⟨⟨?_, ?_⟩, ?_, ?_⟩
  · rintro ⟨result, h⟩
    obtain ⟨value, hdecode, hvalue⟩ := decode_of_parse h
    obtain ⟨members, elements, rfl, hsummary, hregions, hread⟩ := parseValue_eq_ok hvalue
    exact ⟨_, hdecode, members, elements, rfl, hsummary, hregions, fun element =>
      exists_describes_of_mem (describes_of_parseRegions hread)⟩
  · rintro ⟨value, hdecode, members, elements, rfl, hsummary, hregions, hall⟩
    obtain ⟨summary, hvalue⟩ := parseValue_object hsummary hregions
    obtain ⟨regions, hread⟩ := exists_parseRegions hall 0
    rw [parse_of_decode hdecode, hvalue, hread]
    exact ⟨_, rfl⟩
  · intro result h
    obtain ⟨value, hdecode, hvalue⟩ := decode_of_parse h
    obtain ⟨members, elements, rfl, hsummary, hregions, hread⟩ := parseValue_eq_ok hvalue
    exact ⟨members, elements, hdecode, hregions, describes_of_parseRegions hread⟩
  · intro members front element back hdecode hsummary hregions hfront helement
    obtain ⟨summary, hvalue⟩ := parseValue_object hsummary hregions
    obtain ⟨fault, hrefused, hread⟩ := parseRegions_error hfront helement 0
    refine ⟨fault, hrefused, ?_, Rejection.exists_message_eq _ fault⟩
    rw [parse_of_decode hdecode, hvalue, hread, Nat.zero_add]
    rfl

end VmScan.Detection
