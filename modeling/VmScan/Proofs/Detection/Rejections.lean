import VmScan.Proofs.Detection.Grammar
import VmScan.Proofs.Detection.Isolation
import VmScan.Proofs.Json.Limits

/-!
# The classes and kinds of refusals

A response is refused for what it says, with the class of refused responses (`ResponseParseError`),
or for a limit of the reader, with a class of its own. Only the first carries the signal of a
refused response, so only the first is labelled as one where the batch is recorded as failed.

* `Rejection.IsLimit` — the refusal is for a limit of the reader.

Results:
* `not_isLimit_parseValue`: no check of a decoded response meets a limit.
* `parse_error_cases`: which refusals there are, by the places of the text.
* `kind_failure_eq_parse_iff`: the kind of a refusal as a failure.
* `className_of_parse`: the class of a refusal.
* `refused_as_parse_iff`: a response is taken or refused, and the class of a refusal and the kind in
  the warning about its batch are those of a refused response exactly if the text stays within the
  limits.
-/

namespace VmScan.Detection

open VmScan.Json VmScan.Number VmScan.Text

/-! ## Refusals for a limit -/

/-- The refusal is for a limit of the reader. -/
def Rejection.IsLimit : Rejection → Prop
  | .tooManyDigits _ | .tooDeep _ => True
  | _ => False

theorem isLimit_ofStop_iff (text : List Char) (stop : Stop) :
    (Rejection.ofStop text stop).IsLimit ↔ stop.IsLimit := by
  cases stop <;> exact Iff.rfl

theorem className_eq_iff (rejection : Rejection) :
    rejection.className = "ResponseParseError" ↔ ¬ rejection.IsLimit := by
  cases rejection with
  | tooManyDigits =>
    have hname : "ValueError" ≠ "ResponseParseError" := by decide
    exact iff_of_false hname (not_not_intro trivial)
  | tooDeep =>
    have hname : "RecursionError" ≠ "ResponseParseError" := by decide
    exact iff_of_false hname (not_not_intro trivial)
  | _ => exact iff_of_true rfl id

section Checks

variable {rejection : Rejection}

theorem not_isLimit_parseSummary {value : Option Value}
    (h : parseSummary value = .error rejection) : ¬ rejection.IsLimit := by
  unfold parseSummary at h
  split at h
  · cases h
  · split at h <;> cases h
    exact id
  · cases h
    exact id

theorem not_isLimit_parseRegions {index : Nat} {values : List Value}
    (h : parseRegions index values = .error rejection) : ¬ rejection.IsLimit := by
  induction values generalizing index with
  | nil => cases h
  | cons value values ih =>
    rw [parseRegions] at h
    split at h
    · cases h
      exact id
    · exact ih (eq_error_of_map h)

/-- No check of a decoded response meets a limit. -/
theorem not_isLimit_parseValue {value : Value} (h : parseValue value = .error rejection) :
    ¬ rejection.IsLimit := by
  cases value with
  | object members =>
    simp only [parseValue] at h
    cases hsummary : parseSummary (get? members "summary") with
    | error other =>
      rw [hsummary] at h
      cases h
      exact not_isLimit_parseSummary hsummary
    | ok summary =>
      rw [hsummary] at h
      simp only [bind, Except.bind] at h
      split at h
      · next values _ =>
        cases hregions : parseRegions 0 values with
        | error other =>
          rw [hregions] at h
          cases h
          exact not_isLimit_parseRegions hregions
        | ok regions =>
          rw [hregions] at h
          cases h
      · cases h
        exact id
  | _ =>
    cases h
    exact id

end Checks

/-! ## Refusals by the places of the text -/

section Parsing

variable {runtime : Runtime} {response : String} {rejection : Rejection}

/-- A refusal is for a limit that the text meets, or for a text within the limits. -/
theorem parse_error_cases (h : parse runtime response = .error rejection) :
    (∃ stop, MeetsLimit runtime (stripFence response.toList) stop ∧
        rejection = .ofStop (stripFence response.toList) stop) ∨
      ¬ BeyondLimits runtime (stripFence response.toList) ∧ ¬ rejection.IsLimit := by
  simp only [parse] at h
  split at h
  · next stop hstop =>
    cases h
    by_cases hlimit : stop.IsLimit
    · exact Or.inl ⟨stop, decode_limit_iff.mp ⟨hstop, hlimit⟩, rfl⟩
    · refine Or.inr ⟨fun hbeyond => ?_, mt (isLimit_ofStop_iff _ stop).mp hlimit⟩
      obtain ⟨other, hother, hlimits⟩ := hbeyond.decode_error
      rw [hstop] at hother
      cases hother
      exact hlimit hlimits
  · next value hvalue =>
    refine Or.inr ⟨fun hbeyond => ?_, not_isLimit_parseValue h⟩
    obtain ⟨other, hother, -⟩ := hbeyond.decode_error
    rw [hvalue] at hother
    cases hother

theorem isLimit_iff_of_parse (h : parse runtime response = .error rejection) :
    rejection.IsLimit ↔ BeyondLimits runtime (stripFence response.toList) := by
  rcases parse_error_cases h with ⟨stop, hmeets, rfl⟩ | ⟨hbeyond, hlimit⟩
  · exact iff_of_true ((isLimit_ofStop_iff _ stop).mpr (decode_limit_iff.mpr hmeets).2)
      ⟨stop, hmeets⟩
  · exact iff_of_false hlimit hbeyond

/-- A text beyond the limits is refused. -/
theorem exists_rejection_of_beyondLimits
    (h : BeyondLimits runtime (stripFence response.toList)) :
    ∃ rejection, parse runtime response = .error rejection := by
  obtain ⟨stop, hstop, -⟩ := h.decode_error
  exact ⟨.ofStop (stripFence response.toList) stop, by simp only [parse, hstop]⟩

end Parsing

/-! ## Kinds -/

/-- Words never suggest that a response was refused. -/
theorem kindOfText_ne_parse (text : String) : kindOfText text ≠ .parse := by
  unfold kindOfText
  cases hfound : kindWords.find? (fun entry => entry.2.any (Text.mentions text)) with
  | none => nofun
  | some entry =>
    have hmem := List.mem_of_find?_eq_some hfound
    have hkinds : ∀ entry ∈ kindWords, entry.1 ≠ .parse := by decide
    exact hkinds entry hmem

/-- A failure none of whose faults states a kind is not labelled as a refused response. -/
theorem kind_ne_parse {failure : Failure} (h : failure.chain.findSome? (·.kind?) = none) :
    failure.kind ≠ .parse := by
  rw [Failure.kind, kindOfChain, h, Option.getD_none]
  exact kindOfText_ne_parse _

/-- A refusal is labelled as one unless it is for a limit. -/
theorem kind_failure_eq_parse_iff (rejection : Rejection) :
    rejection.failure.kind = .parse ↔ ¬ rejection.IsLimit := by
  cases rejection with
  | tooManyDigits | tooDeep => exact iff_of_false (kind_ne_parse rfl) (not_not_intro trivial)
  | _ => exact iff_of_true rfl id

/-- The warning about a batch whose reply is refused. -/
theorem warning?_outcomeOf {runtime : Runtime} {response : String} {rejection : Rejection}
    (batch : Batch) (index : Nat) (h : parse runtime response = .error rejection) :
    (outcomeOf runtime ((batch, .ok response), index)).warning?
      = some (s!"event=batch_failed batch={index + 1} lines={batch.range} "
        ++ (s!"kind={rejection.failure.kind.label} "
          ++ s!"error={String.ofList (rejection.message.toList.take 200)}")) := by
  simp only [BatchOutcome.warning?, BatchOutcome.failure?, outcomeOf, parseAnswer, h,
    Except.mapError, Option.map_some, String.append_assoc]
  rfl

/-! ## Classes -/

theorem className_ofStop (text : List Char) (stop : Stop) :
    ((Rejection.ofStop text stop).className = "ValueError" ↔ ∃ count, stop = .tooManyDigits count) ∧
      ((Rejection.ofStop text stop).className = "RecursionError" ↔
        ∃ container, stop = .tooDeep container) := by
  have hparse : "ResponseParseError" ≠ "ValueError" ∧ "ResponseParseError" ≠ "RecursionError" := by
    decide
  have hlimits : "ValueError" ≠ "RecursionError" := by decide
  cases stop with
  | malformed => exact ⟨iff_of_false hparse.1 nofun, iff_of_false hparse.2 nofun⟩
  | tooManyDigits count => exact ⟨iff_of_true rfl ⟨count, rfl⟩, iff_of_false hlimits nofun⟩
  | tooDeep container =>
    exact ⟨iff_of_false hlimits.symm nofun, iff_of_true rfl ⟨container, rfl⟩⟩

/-- The class of a refusal tells whether a limit was met, and which. -/
theorem className_of_parse {runtime : Runtime} {response : String} {rejection : Rejection}
    (h : parse runtime response = .error rejection) :
    let text := stripFence response.toList
    (rejection.className = "ResponseParseError" ↔ ¬ BeyondLimits runtime text) ∧
      (rejection.className = "ValueError" ↔
        ∃ count, MeetsLimit runtime text (.tooManyDigits count)) ∧
      (rejection.className = "RecursionError" ↔
        ∃ container, MeetsLimit runtime text (.tooDeep container)) := by
  intro text
  refine ⟨(className_eq_iff rejection).trans (not_congr (isLimit_iff_of_parse h)), ?_⟩
  rcases parse_error_cases h with ⟨stop, hmeets, rfl⟩ | ⟨hbeyond, hlimit⟩
  · obtain ⟨hdigits, hdeep⟩ := className_ofStop text stop
    rw [hdigits, hdeep]
    constructor
    · exact exists_congr fun count => hmeets.eq_iff
    · exact exists_congr fun container => hmeets.eq_iff
  · have hname := (className_eq_iff rejection).mpr hlimit
    rw [hname]
    exact ⟨iff_of_false (by decide) fun ⟨_, hmeets⟩ => hbeyond ⟨_, hmeets⟩,
      iff_of_false (by decide) fun ⟨_, hmeets⟩ => hbeyond ⟨_, hmeets⟩⟩

/-- **A response is refused as one exactly within the limits of the reader.** A response gives a
result or is refused. A refusal has the class of refused responses unless the text inside its fence
has an integer of more than `maxDigits` digits where a value is awaited, or a container inside as
many others as the runtime takes; then the class is that of the limit which the reader meets. In a
run, the warning about the batch that was given the response names the kind `parse` in the same
cases, and no others. -/
theorem refused_as_parse_iff (runtime : Runtime) (response : String) :
    let text := stripFence response.toList
    (∃ result, parse runtime response = .ok result ∧ ¬ BeyondLimits runtime text) ∨
      ∃ rejection, parse runtime response = .error rejection ∧
        (rejection.className = "ResponseParseError" ↔ ¬ BeyondLimits runtime text) ∧
        (rejection.className = "ValueError" ↔
          ∃ count, MeetsLimit runtime text (.tooManyDigits count)) ∧
        (rejection.className = "RecursionError" ↔
          ∃ container, MeetsLimit runtime text (.tooDeep container)) ∧
        ∀ (batches : List Batch) (script : Nat → Except Failure String) (i : Nat) (batch : Batch),
          batches[i]? = some batch → script i = .ok response →
            ∃ (outcome : BatchOutcome) (kind : FailureKind),
              (scriptedRun runtime batches script).1[i]? = some outcome ∧
              outcome.failure?.map (·.kind) = some kind ∧
              outcome.warning? = some (s!"event=batch_failed batch={i + 1} lines={batch.range} "
                ++ (s!"kind={kind.label} "
                  ++ s!"error={String.ofList (rejection.message.toList.take 200)}")) ∧
              (kind = .parse ↔ ¬ BeyondLimits runtime text) := by
  intro text
  cases h : parse runtime response with
  | ok result =>
    refine Or.inl ⟨result, rfl, fun hbeyond => ?_⟩
    obtain ⟨rejection, hrejection⟩ := exists_rejection_of_beyondLimits hbeyond
    rw [h] at hrejection
    cases hrejection
  | error rejection =>
    obtain ⟨hclass, hdigits, hdeep⟩ := className_of_parse h
    refine Or.inr ⟨rejection, rfl, hclass, hdigits, hdeep, ?_⟩
    intro batches script i batch hbatch hscript
    have hkind := (kind_failure_eq_parse_iff rejection).trans (not_congr (isLimit_iff_of_parse h))
    have houtcome := getElem?_scriptedRun runtime batches script hbatch
    rw [hscript] at houtcome
    refine ⟨_, rejection.failure.kind, houtcome, ?_, warning?_outcomeOf batch i h, hkind⟩
    simp only [BatchOutcome.failure?, outcomeOf, parseAnswer, h, Except.mapError, Option.map_some]

/-- An integer literal of so many ones. -/
def ones (count : Nat) : String := String.ofList (List.replicate count '1')

/-- A response that is one integer of too many ones goes beyond the limits. -/
theorem beyondLimits_ones {runtime : Runtime} {count : Nat} (h : maxDigits < count) :
    BeyondLimits runtime (stripFence (ones count).toList) := by
  obtain ⟨more, rfl⟩ : ∃ more, count = more + 1 := Nat.exists_eq_add_one.mpr (Nat.zero_lt_of_lt h)
  have hdigits : ∀ c ∈ List.replicate (more + 1) '1', isAsciiDigit c = true := by
    intro c hc
    rw [List.eq_of_mem_replicate hc]
    rfl
  have hhead : ∀ c, c ≠ '1' → (List.replicate (more + 1) '1').head? ≠ some c := by
    intro c hc
    rw [List.replicate_succ, List.head?_cons, ne_eq, Option.some.injEq]
    exact hc.symm
  have hlong : LongInteger (List.replicate (more + 1) '1') (more + 1) := by
    have hlength : (List.replicate (more + 1) '1').length = more + 1 := List.length_replicate
    have hintro : LongInteger ([] ++ (List.replicate (more + 1) '1' ++ []))
        (List.replicate (more + 1) '1').length :=
      .intro false hdigits (hhead '0' (by decide)) (hlength.symm ▸ h) ⟨nofun, nofun, nofun⟩
    rwa [hlength, List.append_nil, List.nil_append] at hintro
  have hblank : skipBlank (List.replicate (more + 1) '1') = List.replicate (more + 1) '1' := by
    rw [List.replicate_succ]
    exact skipBlank_of_not_blank rfl _
  have hfence : stripFence (ones (more + 1)).toList = List.replicate (more + 1) '1' := by
    rw [ones, String.toList_ofList, List.replicate_succ]
    exact stripFence_cons rfl (by decide) _
  rw [hfence]
  refine ⟨.tooManyDigits (more + 1), [], _, .start (hhead _ (by decide)),
    .digits (Nat.zero_le _) ?_⟩
  rwa [hblank]

/-- A response that is one integer of 4301 ones is refused, but not with the class and kind of a
refused response. -/
theorem ones_not_parse : ∃ rejection, parse .usual (ones 4301) = .error rejection ∧
    rejection.className ≠ "ResponseParseError" ∧ rejection.failure.kind ≠ .parse := by
  have hbeyond : BeyondLimits .usual (stripFence (ones 4301).toList) :=
    beyondLimits_ones (by decide)
  obtain ⟨rejection, h⟩ := exists_rejection_of_beyondLimits hbeyond
  have hlimit := (isLimit_iff_of_parse h).mpr hbeyond
  exact ⟨rejection, h, mt (className_eq_iff rejection).mp (not_not_intro hlimit),
    mt (kind_failure_eq_parse_iff rejection).mp (not_not_intro hlimit)⟩

end VmScan.Detection
