import VmScan.Detection.Response
import VmScan.Proofs.Number.Binary64

/-!
# The required fields of a region

What each field must hold, stated apart from the reading of it.

* `WholeNumber` — a number that is finite and whole as a binary64 number.
* `FirstGiven` — the value of the first of two names that is there and not null.
* `HasLine`, `HasText` — a line and a text that an object holds.
* `LineRefused` — a line that cannot be read.

Results:
* `wholeNumber?_eq_some_iff`: exactly the whole numbers are read, as themselves.
* `requiredLine_spec`, `requiredText_spec`, `requiredLabel_spec`: each field is read as what it
  holds, or refused.
-/

namespace VmScan.Detection

open VmScan.Json VmScan.Number

/-! ## Numbers of lines -/

/-- The value is a number, and no Boolean. -/
def IsNumber (value : Value) : Prop :=
  (∃ n, value = .int n) ∨ ∃ x, value = .float x

/-- The number is this integer, and is finite and whole as a binary64 number. -/
def WholeNumber : Value → Int → Prop
  | .int k, n =>
    k = n ∧ ∃ whole : Int, (Binary64.nearest (k < 0) k.natAbs 1).toRat? = some (whole : ℚ)
  | .float x, n => x.toRat? = some (n : ℚ)
  | _, _ => False

theorem fitsBinary64_iff (k : Int) :
    fitsBinary64 k = true ↔
      ∃ whole : Int, (Binary64.nearest (k < 0) k.natAbs 1).toRat? = some (whole : ℚ) := by
  rw [fitsBinary64, decide_eq_true_eq, ← Binary64.nearest_isInteger_iff (decide (k < 0))]
  exact exists_congr fun whole => Binary64.toInt?_eq_some_iff _ whole

theorem wholeNumber?_eq_some_iff (value : Value) (n : Int) :
    wholeNumber? value = some n ↔ WholeNumber value n := by
  cases value with
  | int k =>
    rw [WholeNumber, ← fitsBinary64_iff, wholeNumber?]
    split_ifs with h
    · rw [Option.some.injEq]
      exact ⟨fun e => ⟨e, h⟩, And.left⟩
    · exact iff_of_false nofun fun e => h e.2
  | float x => exact Binary64.toInt?_eq_some_iff x n
  | _ => exact iff_of_false nofun id

theorem shownNumber?_eq_none_iff (value : Value) :
    shownNumber? value = none ↔ ¬ IsNumber value := by
  cases value with
  | int k => exact iff_of_false nofun fun h => h (Or.inl ⟨k, rfl⟩)
  | float x => exact iff_of_false nofun fun h => h (Or.inr ⟨x, rfl⟩)
  | _ => exact iff_of_true rfl (by rintro (⟨_, h⟩ | ⟨_, h⟩) <;> cases h)

theorem WholeNumber.isNumber {value : Value} {n : Int} (h : WholeNumber value n) :
    IsNumber value := by
  cases value with
  | int k => exact Or.inl ⟨k, rfl⟩
  | float x => exact Or.inr ⟨x, rfl⟩
  | _ => exact absurd h id

/-! ## The fields of a region -/

/-- The member is there and is not null. -/
def Given (members : Members) (name : String) (value : Value) : Prop :=
  get? members name = some value ∧ value ≠ .null

/-- The first of the two names that is given has this value. -/
def FirstGiven (members : Members) (present older : String) (value : Value) : Prop :=
  Given members present value ∨
    (∀ other, ¬ Given members present other) ∧ Given members older value

/-- The first of the two names that is given has this line. -/
def HasLine (members : Members) (present older : String) (n : Int) : Prop :=
  ∃ value, FirstGiven members present older value ∧ WholeNumber value n

theorem lineValue_of_given {members : Members} {field : LineField} {value : Value}
    (h : Given members field.name value) : lineValue members field = value := by
  obtain ⟨hvalue, hnull⟩ := h
  unfold lineValue
  rw [hvalue]
  cases value with
  | null => exact absurd rfl hnull
  | _ => rfl

theorem lineValue_of_not_given {members : Members} {field : LineField}
    (h : ∀ other, ¬ Given members field.name other) :
    lineValue members field = (get? members field.olderName).getD .null := by
  unfold lineValue
  cases hvalue : get? members field.name with
  | none => rfl
  | some value =>
    cases value with
    | null => rfl
    | _ => exact absurd ⟨hvalue, nofun⟩ (h _)

theorem firstGiven_iff (members : Members) (field : LineField) (value : Value) :
    FirstGiven members field.name field.olderName value ↔
      lineValue members field = value ∧ value ≠ .null := by
  by_cases hgiven : ∃ other, Given members field.name other
  · obtain ⟨other, hother⟩ := hgiven
    rw [lineValue_of_given hother]
    constructor
    · rintro (h | ⟨hnone, -⟩)
      · exact ⟨Option.some.inj (hother.1.symm.trans h.1), h.2⟩
      · exact absurd hother (hnone other)
    · rintro ⟨rfl, -⟩
      exact Or.inl hother
  · have hnone : ∀ other, ¬ Given members field.name other := fun other h => hgiven ⟨other, h⟩
    rw [lineValue_of_not_given hnone]
    constructor
    · rintro (h | ⟨-, holder, hnull⟩)
      · exact absurd h (hnone value)
      · rw [holder]
        exact ⟨rfl, hnull⟩
    · rintro ⟨rfl, hnull⟩
      cases holder : get? members field.olderName with
      | none => rw [holder] at hnull; exact absurd rfl hnull
      | some other => rw [holder] at hnull; exact Or.inr ⟨hnone, holder, hnull⟩

theorem Given.unique {members : Members} {name : String} {a b : Value}
    (ha : Given members name a) (hb : Given members name b) : a = b :=
  Option.some.inj (ha.1.symm.trans hb.1)

theorem FirstGiven.unique {members : Members} {present older : String} {a b : Value}
    (ha : FirstGiven members present older a) (hb : FirstGiven members present older b) :
    a = b := by
  rcases ha with ha | ⟨hnone, ha⟩ <;> rcases hb with hb | ⟨hnone', hb⟩
  · exact ha.unique hb
  · exact absurd ha (hnone' a)
  · exact absurd hb (hnone b)
  · exact ha.unique hb

theorem HasLine.unique {members : Members} {present older : String} {m n : Int}
    (hm : HasLine members present older m) (hn : HasLine members present older n) : m = n := by
  obtain ⟨value, hvalue, hm⟩ := hm
  obtain ⟨other, hother, hn⟩ := hn
  rw [hother.unique hvalue, ← wholeNumber?_eq_some_iff] at hn
  rw [← wholeNumber?_eq_some_iff] at hm
  exact Option.some.inj (hm.symm.trans hn)

/-- A line that cannot be read: no number, or a number that is not whole. -/
inductive LineRefused (members : Members) (field : LineField) : RegionFault → Prop where
  | missing (h : ∀ value, FirstGiven members field.name field.olderName value → ¬ IsNumber value) :
      LineRefused members field (.missingLine field)
  | broken {value : Value} {shown : String}
      (hgiven : FirstGiven members field.name field.olderName value)
      (hshown : shownNumber? value = some shown) (h : ∀ n, ¬ WholeNumber value n) :
      LineRefused members field (.brokenLine field shown)

theorem requiredLine_spec (members : Members) (field : LineField) :
    (∃ n, requiredLine members field = .ok n ∧ HasLine members field.name field.olderName n) ∨
      ∃ fault, requiredLine members field = .error fault ∧ LineRefused members field fault := by
  cases hshown : shownNumber? (lineValue members field) with
  | none =>
    refine Or.inr ⟨.missingLine field, by simp only [requiredLine, hshown], .missing ?_⟩
    intro value hgiven
    rw [← ((firstGiven_iff members field value).mp hgiven).1]
    exact (shownNumber?_eq_none_iff _).mp hshown
  | some shown =>
    have hgiven : FirstGiven members field.name field.olderName (lineValue members field) := by
      refine (firstGiven_iff members field _).mpr ⟨rfl, fun hnull => ?_⟩
      rw [hnull] at hshown
      cases hshown
    cases hwhole : wholeNumber? (lineValue members field) with
    | none =>
      refine Or.inr ⟨.brokenLine field shown, by simp only [requiredLine, hshown, hwhole],
        .broken hgiven hshown fun n hn => ?_⟩
      rw [(wholeNumber?_eq_some_iff _ n).mpr hn] at hwhole
      cases hwhole
    | some n =>
      exact Or.inl ⟨n, by simp only [requiredLine, hshown, hwhole], _, hgiven,
        (wholeNumber?_eq_some_iff _ n).mp hwhole⟩

theorem LineRefused.not_hasLine {members : Members} {field : LineField} {fault : RegionFault}
    (h : LineRefused members field fault) (n : Int) :
    ¬ HasLine members field.name field.olderName n := by
  rintro ⟨value, hvalue, hn⟩
  cases h with
  | missing h => exact h value hvalue hn.isNumber
  | broken hgiven hshown h => exact h n (hgiven.unique hvalue ▸ hn)

/-- The text that a member holds. -/
def HasText (members : Members) (name text : String) : Prop :=
  get? members name = some (.string text)

theorem textMember?_eq_some_iff (members : Members) (name text : String) :
    textMember? members name = some text ↔ HasText members name text := by
  unfold textMember? HasText
  cases get? members name with
  | none => exact iff_of_false nofun nofun
  | some value =>
    cases value with
    | string other =>
      exact ⟨fun h => congrArg (some ∘ Value.string) (Option.some.inj h), fun h => by cases h; rfl⟩
    | _ => exact iff_of_false nofun nofun

theorem requiredText_spec (members : Members) (field : TextField) :
    (∃ text, requiredText members field = .ok text ∧ HasText members field.name text) ∨
      requiredText members field = .error (.missingText field) ∧
        ∀ text, ¬ HasText members field.name text := by
  unfold requiredText
  cases htext : textMember? members field.name with
  | none =>
    refine Or.inr ⟨rfl, fun text h => ?_⟩
    rw [(textMember?_eq_some_iff members field.name text).mpr h] at htext
    cases htext
  | some text => exact Or.inl ⟨text, rfl, (textMember?_eq_some_iff members _ text).mp htext⟩

theorem find?_label_eq_some_iff {α : Type} {labelOf : α → String} {all : List α}
    (h : ∀ a, all.find? (labelOf · = labelOf a) = some a) (label : String) (a : α) :
    all.find? (labelOf · = label) = some a ↔ labelOf a = label := by
  constructor
  · intro hfind
    simpa using List.find?_some hfind
  · rintro rfl
    exact h a

theorem Structure.ofLabel?_eq_some_iff (label : String) (kind : Structure) :
    Structure.ofLabel? label = some kind ↔ kind.label = label :=
  find?_label_eq_some_iff (fun kind => by cases kind <;> decide) label kind

theorem Confidence.ofLabel?_eq_some_iff (label : String) (confidence : Confidence) :
    Confidence.ofLabel? label = some confidence ↔ confidence.label = label :=
  find?_label_eq_some_iff (fun confidence => by cases confidence <;> decide) label confidence

theorem requiredLabel_spec {α : Type} (field : TextField) (label : String)
    (ofLabel? : String → Option α) (valid : List String) :
    (∃ a, requiredLabel field label ofLabel? valid = .ok a ∧ ofLabel? label = some a) ∨
      requiredLabel field label ofLabel? valid = .error (.unknownLabel field label valid) ∧
        ∀ a, ofLabel? label ≠ some a := by
  unfold requiredLabel
  cases h : ofLabel? label with
  | none => exact Or.inr ⟨rfl, fun a => nofun⟩
  | some a => exact Or.inl ⟨a, rfl, rfl⟩

end VmScan.Detection
