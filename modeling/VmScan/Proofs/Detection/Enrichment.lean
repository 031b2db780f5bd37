import Mathlib.Data.List.Forall2
import VmScan.Proofs.Detection.Grammar

/-!
# Optional parts leave the required ones alone

Two decoded responses that agree on what a response must hold, and hold anything at all elsewhere,
are both refused for the same reason or both taken with the same required parts.

* `Agree` — two values in which no name is looked up: they differ at most inside objects.
* `AgreeAt` — the members of two objects at a name that is looked up.
* `FieldsAgree`, `ElementsAgree`, `SummariesAgree`, `ListsAgree`, `ResponsesAgree` — the parts of
  two responses, down to the names that are looked up in each. The older name of a line is not
  looked up where the present one is given.
* `Alike` — two outcomes that are one refusal, or two results that are related.

Results:
* `requiredLine_congr`, `requiredText_congr`: a field is read the same, or refused the same.
* `parseRegion_alike`, `parseRegions_alike`: the same regions, the optional parts apart.
* `parse_alike`: two responses that agree have one verdict, and the same required parts.
-/

namespace VmScan.Detection

open VmScan.Json

/-! ## Values that agree -/

/-- The values are the same, except inside objects. -/
inductive Agree : Value → Value → Prop where
  | same (value : Value) : Agree value value
  | object (members others : Members) : Agree (.object members) (.object others)
  | array {items others : List Value} (h : List.Forall₂ Agree items others) :
      Agree (.array items) (.array others)

/-- The members at the name agree, or there is none in either object. -/
def AgreeAt (members others : Members) (name : String) : Prop :=
  Option.Rel Agree (get? members name) (get? others name)

/-- The names at which a region must be given, older names apart. -/
def requiredNames : List String :=
  ["start_line", "end_line", "type", "confidence", "description"]

/-- The members of two regions agree where they must be given: at the present names, and at the
older name of a line whose present name is not given. -/
structure FieldsAgree (members others : Members) : Prop where
  present : ∀ name ∈ requiredNames, AgreeAt members others name
  older : ∀ field : LineField,
    (∃ value, Given members field.name value) ∨ AgreeAt members others field.olderName

/-- Two elements of the list of regions agree. -/
inductive ElementsAgree : Value → Value → Prop where
  | object {members others : Members} (h : FieldsAgree members others) :
      ElementsAgree (.object members) (.object others)
  | other {value other : Value} (hvalue : ∀ members, value ≠ .object members)
      (h : Agree value other) : ElementsAgree value other

/-- Two summaries agree. -/
inductive SummariesAgree : Value → Value → Prop where
  | object {members others : Members} (hoverall : AgreeAt members others "overall_description")
      (hadvice : AgreeAt members others "debugging_recommendation") :
      SummariesAgree (.object members) (.object others)
  | other {value other : Value} (hvalue : ∀ members, value ≠ .object members)
      (h : Agree value other) : SummariesAgree value other

/-- Two lists of regions agree, element for element. -/
inductive ListsAgree : Value → Value → Prop where
  | array {elements others : List Value} (h : List.Forall₂ ElementsAgree elements others) :
      ListsAgree (.array elements) (.array others)
  | other {value other : Value} (hvalue : ∀ elements, value ≠ .array elements)
      (h : Agree value other) : ListsAgree value other

/-- Two decoded responses agree on what a response must hold. -/
inductive ResponsesAgree : Value → Value → Prop where
  | object {members others : Members}
      (hsummary : Option.Rel SummariesAgree (get? members "summary") (get? others "summary"))
      (hregions : Option.Rel ListsAgree (get? members "regions") (get? others "regions")) :
      ResponsesAgree (.object members) (.object others)
  | other {value other : Value} (hvalue : ∀ members, value ≠ .object members)
      (h : Agree value other) : ResponsesAgree value other

namespace Agree

variable {value other : Value}

/-- A value that agrees with one that is no object is no object. -/
theorem ne_object (h : Agree value other) (hvalue : ∀ members, value ≠ .object members) :
    ∀ members, other ≠ .object members := by
  cases h with
  | same => exact hvalue
  | object members => exact absurd rfl (hvalue members)
  | array => exact nofun

theorem eq_null_iff (h : Agree value other) : value = .null ↔ other = .null := by
  cases h with
  | same => exact Iff.rfl
  | _ => exact iff_of_false nofun nofun

theorem text?_eq (h : Agree value other) : text? value = text? other := by
  cases h <;> rfl

theorem shownNumber?_eq (h : Agree value other) : shownNumber? value = shownNumber? other := by
  cases h <;> rfl

theorem wholeNumber?_eq (h : Agree value other) : wholeNumber? value = wholeNumber? other := by
  cases h <;> rfl

end Agree

/-- What two members that agree are: absent in both objects, or values that agree. -/
theorem exists_of_rel {related : Value → Value → Prop} {value other : Option Value}
    (h : Option.Rel related value other) :
    (value = none ∧ other = none) ∨
      ∃ v w, value = some v ∧ other = some w ∧ related v w := by
  cases h with
  | none => exact Or.inl ⟨rfl, rfl⟩
  | some h => exact Or.inr ⟨_, _, rfl, rfl, h⟩

/-! ## Outcomes that are alike -/

/-- The outcomes are one refusal, or results that are related. -/
inductive Alike {ε α : Type} (related : α → α → Prop) : Except ε α → Except ε α → Prop where
  | refused (reason : ε) : Alike related (.error reason) (.error reason)
  | taken {a b : α} (h : related a b) : Alike related (.ok a) (.ok b)

theorem exists_of_alike {ε α : Type} {related : α → α → Prop} {outcome other : Except ε α}
    (h : Alike related outcome other) :
    (∃ reason, outcome = .error reason ∧ other = .error reason) ∨
      ∃ a b, outcome = .ok a ∧ other = .ok b ∧ related a b := by
  cases h with
  | refused reason => exact Or.inl ⟨reason, rfl, rfl⟩
  | taken h => exact Or.inr ⟨_, _, rfl, rfl, h⟩

/-- Steps that start from the same outcome are alike if they go on alike. -/
theorem Alike.bind {ε α β : Type} {related : β → β → Prop} (outcome : Except ε α)
    {f g : α → Except ε β} (h : ∀ a, Alike related (f a) (g a)) :
    Alike related (outcome.bind f) (outcome.bind g) := by
  cases outcome with
  | error reason => exact .refused reason
  | ok a => exact h a

/-! ## The fields of a region -/

section Fields

variable {members others : Members}

theorem textMember?_congr {name : String} (h : AgreeAt members others name) :
    textMember? members name = textMember? others name := by
  unfold textMember?
  rcases exists_of_rel h with ⟨hvalue, hother⟩ | ⟨value, other, hvalue, hother, h⟩
  · rw [hvalue, hother]
  · rw [hvalue, hother, Option.bind_some, Option.bind_some, h.text?_eq]

theorem requiredText_congr {field : TextField} (h : AgreeAt members others field.name) :
    requiredText members field = requiredText others field := by
  rw [requiredText, requiredText, textMember?_congr h]

/-- A line is given in both objects or in neither, by values that agree. -/
theorem given_congr {name : String} (h : AgreeAt members others name) :
    (∃ value other, Given members name value ∧ Given others name other ∧ Agree value other) ∨
      (∀ value, ¬ Given members name value) ∧ ∀ other, ¬ Given others name other := by
  rcases exists_of_rel h with ⟨hvalue, hother⟩ | ⟨value, other, hvalue, hother, h⟩
  · refine Or.inr ⟨fun v hv => ?_, fun v hv => ?_⟩
    · exact Option.some_ne_none v (hv.1.symm.trans hvalue)
    · exact Option.some_ne_none v (hv.1.symm.trans hother)
  · by_cases hnull : value = .null
    · refine Or.inr ⟨fun v hv => ?_, fun v hv => ?_⟩
      · exact hv.2 (Option.some.inj (hv.1.symm.trans hvalue) ▸ hnull)
      · exact hv.2 (Option.some.inj (hv.1.symm.trans hother) ▸ h.eq_null_iff.mp hnull)
    · exact Or.inl ⟨value, other, ⟨hvalue, hnull⟩,
        ⟨hother, fun e => hnull (h.eq_null_iff.mpr e)⟩, h⟩

/-- The values for a line agree: at the present name if it is given, at the older one if not. -/
theorem agree_lineValue {field : LineField} (hpresent : AgreeAt members others field.name)
    (holder : (∃ value, Given members field.name value) ∨ AgreeAt members others field.olderName) :
    Agree (lineValue members field) (lineValue others field) := by
  rcases given_congr hpresent with ⟨value, other, hvalue, hother, h⟩ | ⟨hnone, hnone'⟩
  · rw [lineValue_of_given hvalue, lineValue_of_given hother]
    exact h
  · have hagree := holder.resolve_left fun ⟨value, hvalue⟩ => hnone value hvalue
    rw [lineValue_of_not_given hnone, lineValue_of_not_given hnone']
    rcases exists_of_rel hagree with ⟨hvalue, hother⟩ | ⟨value, other, hvalue, hother, h⟩
    · rw [hvalue, hother]
      exact .same .null
    · rw [hvalue, hother]
      exact h

theorem requiredLine_congr (h : FieldsAgree members others) {field : LineField}
    (hname : field.name ∈ requiredNames) :
    requiredLine members field = requiredLine others field := by
  have hagree := agree_lineValue (h.present _ hname) (h.older field)
  simp only [requiredLine, hagree.shownNumber?_eq, hagree.wholeNumber?_eq]

end Fields

/-! ## Regions -/

/-- The regions make the same claim; what is optional may differ. -/
structure SameClaim (a b : Region) : Prop where
  start : a.start = b.start
  finish : a.finish = b.finish
  kind : a.kind = b.kind
  confidence : a.confidence = b.confidence
  description : a.description = b.description

theorem checkedRegion_alike (members others : Members) (start finish : Int)
    (kindLabel confidenceLabel description : String) :
    Alike SameClaim (checkedRegion members start finish kindLabel confidenceLabel description)
      (checkedRegion others start finish kindLabel confidenceLabel description) := by
  unfold checkedRegion
  refine Alike.bind _ fun kind => Alike.bind _ fun confidence => ?_
  by_cases h : finish < start
  · simp only [if_pos h]
    exact .refused _
  · simp only [if_neg h]
    exact .taken ⟨rfl, rfl, rfl, rfl, rfl⟩

/-- Elements that agree are regions with the same claim, or refused for the same reason. -/
theorem parseRegion_alike {value other : Value} (h : ElementsAgree value other) :
    Alike SameClaim (parseRegion value) (parseRegion other) := by
  cases h with
  | @object members others h =>
    have hstart : requiredLine members .first = requiredLine others .first :=
      requiredLine_congr h (by decide)
    have hfinish : requiredLine members .last = requiredLine others .last :=
      requiredLine_congr h (by decide)
    have hkind : requiredText members .kind = requiredText others .kind :=
      requiredText_congr (h.present _ (by decide))
    have hconfidence : requiredText members .confidence = requiredText others .confidence :=
      requiredText_congr (h.present _ (by decide))
    have hdescription : requiredText members .description = requiredText others .description :=
      requiredText_congr (h.present _ (by decide))
    unfold parseRegion
    simp only [hstart, hfinish, hkind, hconfidence, hdescription]
    exact Alike.bind _ fun start => Alike.bind _ fun finish => Alike.bind _ fun kindLabel =>
      Alike.bind _ fun confidenceLabel => Alike.bind _ fun description =>
        checkedRegion_alike members others start finish kindLabel confidenceLabel description
  | other hvalue h =>
    have hrefused : ∀ v : Value, (∀ members, v ≠ .object members) →
        parseRegion v = .error .notObject := by
      intro v hv
      cases v with
      | object members => exact absurd rfl (hv members)
      | _ => rfl
    rw [hrefused value hvalue, hrefused other (h.ne_object hvalue)]
    exact .refused _

theorem parseRegions_alike {values others : List Value}
    (h : List.Forall₂ ElementsAgree values others) (index : Nat) :
    Alike (List.Forall₂ SameClaim) (parseRegions index values) (parseRegions index others) := by
  induction h generalizing index with
  | nil => exact .taken .nil
  | @cons value other values others hfirst hrest ih =>
    unfold parseRegions
    rcases exists_of_alike (parseRegion_alike hfirst) with
      ⟨fault, hvalue, hother⟩ | ⟨a, b, hvalue, hother, hclaim⟩ <;> simp only [hvalue, hother]
    · exact .refused _
    rcases exists_of_alike (ih (index + 1)) with
      ⟨rejection, hvalues, hothers⟩ | ⟨as, bs, hvalues, hothers, hclaims⟩ <;>
        simp only [hvalues, hothers]
    · exact .refused _
    · exact .taken (.cons hclaim hclaims)

/-! ## Responses -/

theorem parseSummary_congr {summary other : Option Value}
    (h : Option.Rel SummariesAgree summary other) : parseSummary summary = parseSummary other := by
  cases h with
  | none => rfl
  | some h =>
    cases h with
    | object hoverall hadvice =>
      rw [parseSummary, parseSummary, textMember?_congr hoverall, textMember?_congr hadvice]
    | other hvalue h =>
      cases h with
      | same => rfl
      | object members => exact absurd rfl (hvalue members)
      | array => rfl

/-- The results have the same summary, and regions with the same claims. -/
structure SameRequired (a b : Result) : Prop where
  summary : a.summary = b.summary
  regions : List.Forall₂ SameClaim a.regions b.regions

theorem parseValue_of_ne_object {value : Value} (h : ∀ members, value ≠ .object members) :
    parseValue value = .error .notObject := by
  cases value with
  | object members => exact absurd rfl (h members)
  | _ => rfl

/-- **Responses that agree have one verdict.** Either both are refused for the same reason, or both
are taken with the same summary and the same claims, one for one. -/
theorem parseValue_alike {value other : Value} (h : ResponsesAgree value other) :
    Alike SameRequired (parseValue value) (parseValue other) := by
  cases h with
  | other hvalue h =>
    rw [parseValue_of_ne_object hvalue, parseValue_of_ne_object (h.ne_object hvalue)]
    exact .refused _
  | @object members others hsummary hregions =>
    simp only [parseValue, parseSummary_congr hsummary]
    refine Alike.bind _ fun summary => ?_
    rcases exists_of_rel hregions with ⟨hvalue, hother⟩ | ⟨value, other, hvalue, hother, h⟩ <;>
      rw [hvalue, hother]
    · exact .refused _
    cases h with
    | @array elements others h =>
      rcases exists_of_alike (parseRegions_alike h 0) with
        ⟨rejection, hread, hread'⟩ | ⟨as, bs, hread, hread', hclaims⟩ <;>
          simp only [hread, hread', bind, Except.bind]
      · exact .refused _
      · exact .taken ⟨rfl, hclaims⟩
    | other hvalue h =>
      cases h with
      | same =>
        cases value with
        | array elements => exact absurd rfl (hvalue elements)
        | _ => exact .refused _
      | object => exact .refused _
      | @array elements => exact absurd rfl (hvalue elements)

/-- **Optional parts can neither break nor alter the required ones.** Two decoded responses that
agree on what a response must hold are refused for the same reason, or taken with the same summary
and the same claims, one for one; and so are all texts that decode to them. -/
theorem parse_alike {value other : Value} (h : ResponsesAgree value other) :
    Alike SameRequired (parseValue value) (parseValue other) ∧
      ∀ (runtime : Runtime) (response response' : String),
        decode runtime (stripFence response.toList) = .ok value →
        decode runtime (stripFence response'.toList) = .ok other →
        Alike SameRequired (parse runtime response) (parse runtime response') := by
  have halike := parseValue_alike h
  refine ⟨halike, fun runtime response response' hvalue hother => ?_⟩
  rw [parse_of_decode hvalue, parse_of_decode hother]
  exact halike

/-- A region without optional parts, and the same region among parts of every wrong shape. -/
theorem parse_alike_wildParts :
    let plain : Members := [("start_line", .int 3), ("end_line", .null), ("end", .int 9),
      ("type", .string "Switch Dispatcher"), ("confidence", .string "high"),
      ("description", .string "")]
    let wild : Members := [("vm_components", .object [("instruction_pointer", .int 5)]),
      ("debugging_entry_point", .float .nan), ("start", .string "three"), ("colour", .bool true)]
    let response (region parts : Members) : Value := .object (parts ++
      [("summary", .string "vm"), ("regions", .array [.object region])])
    let first := response plain []
    let second := response (wild ++ plain) [("global_bytecode", .array [.null])]
    ResponsesAgree first second ∧ Alike SameRequired (parseValue first) (parseValue second) ∧
      (parseValue second).toOption.map (·.regions.map (·.finish)) = some [9] := by
  intro plain wild response first second
  have hfields : FieldsAgree plain (wild ++ plain) := by
    refine ⟨?_, ?_⟩
    · intro name hname
      simp only [requiredNames, List.mem_cons, List.not_mem_nil, or_false] at hname
      rcases hname with rfl | rfl | rfl | rfl | rfl <;> exact .some (.same _)
    · intro field
      cases field with
      | first => exact Or.inl ⟨.int 3, rfl, nofun⟩
      | last => exact Or.inr (.some (.same _))
  have hagree : ResponsesAgree first second :=
    .object (.some (.other nofun (.same _))) (.some (.array (.cons (.object hfields) .nil)))
  exact ⟨hagree, (parse_alike hagree).1, by decide +kernel⟩

end VmScan.Detection
