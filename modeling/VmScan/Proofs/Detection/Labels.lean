import VmScan.Proofs.Detection.WholeRun

/-!
# The numbers of batches in a merged summary

A merged summary (`merge_detection_results`) puts a number before the description of each batch, and
the messages about failed batches (`format_batch_error`) have numbers too. The summary counts the
batches that have a result, the messages count all batches, and the two ways agree only where
nothing failed before something succeeded.

* `shownLabels` — descriptions with the numbers that the summary gives them.
* `trueLabels` — descriptions with the numbers of their batches.
* `failedNumbers` — the numbers of the batches that failed.
* `FailuresLast` — no batch failed before one that has a result.

Results:
* `shownLabels_eq_trueLabels_iff`: the numbers are right exactly if the failures come last.
* `shownLabels_disjoint_iff`: exactly then, too, no number is used for a failed batch as well.
* `detect_labels`: what this means for a whole run.
-/

namespace VmScan.Detection

open VmScan.Json (Runtime)

/-! ## Two ways to number batches -/

/-- The descriptions of the batches with a result, with the numbers from `first` on that a merged
summary gives them. -/
def shownLabels (runtime : Runtime) (first : Nat) (replies : List (Except Failure String)) :
    List (Nat × String) :=
  ((replies.filterMap (parsed? runtime)).zipIdx first).map fun (result, number) =>
    (number, result.summary.text)

/-- The descriptions of the batches with a result, with the numbers of these batches, which are
counted from `first` on. -/
def trueLabels (runtime : Runtime) (first : Nat) (replies : List (Except Failure String)) :
    List (Nat × String) :=
  (replies.zipIdx first).filterMap fun (reply, number) =>
    (parsed? runtime reply).map fun result => (number, result.summary.text)

/-- The numbers of the batches without a result, counted from `first` on. -/
def failedNumbers (runtime : Runtime) (first : Nat) (replies : List (Except Failure String)) :
    List Nat :=
  (replies.zipIdx first).filterMap fun (reply, number) =>
    (failureText? runtime reply).map fun _ => number

/-- No reply that gives no result stands before one that gives a result. -/
def FailuresLast (runtime : Runtime) (replies : List (Except Failure String)) : Prop :=
  replies.Pairwise fun earlier later =>
    (parsed? runtime later).isSome = true → (parsed? runtime earlier).isSome = true

section Cons

variable {runtime : Runtime} {reply : Except Failure String}
  {replies : List (Except Failure String)} {result : Result}

theorem shownLabels_cons_of_parsed (first : Nat) (h : parsed? runtime reply = some result) :
    shownLabels runtime first (reply :: replies)
      = (first, result.summary.text) :: shownLabels runtime (first + 1) replies := by
  rw [shownLabels, List.filterMap_cons_some h, List.zipIdx_cons]
  rfl

theorem shownLabels_cons_of_failed (first : Nat) (h : parsed? runtime reply = none) :
    shownLabels runtime first (reply :: replies) = shownLabels runtime first replies := by
  rw [shownLabels, List.filterMap_cons_none h]
  rfl

theorem trueLabels_cons_of_parsed (first : Nat) (h : parsed? runtime reply = some result) :
    trueLabels runtime first (reply :: replies)
      = (first, result.summary.text) :: trueLabels runtime (first + 1) replies := by
  simp [trueLabels, h]

theorem trueLabels_cons_of_failed (first : Nat) (h : parsed? runtime reply = none) :
    trueLabels runtime first (reply :: replies) = trueLabels runtime (first + 1) replies := by
  simp [trueLabels, h]

theorem failedNumbers_cons_of_parsed (first : Nat) (h : parsed? runtime reply = some result) :
    failedNumbers runtime first (reply :: replies) = failedNumbers runtime (first + 1) replies := by
  have htext : failureText? runtime reply = none :=
    (failureText?_eq_none_iff runtime reply).mpr (by rw [h]; rfl)
  simp [failedNumbers, htext]

theorem failedNumbers_cons_of_failed (first : Nat) (h : parsed? runtime reply = none) :
    failedNumbers runtime first (reply :: replies)
      = first :: failedNumbers runtime (first + 1) replies := by
  obtain ⟨text, htext⟩ : ∃ text, failureText? runtime reply = some text := by
    rw [← Option.isSome_iff_exists, Option.isSome_iff_ne_none, ne_eq, failureText?_eq_none_iff, h]
    simp
  simp [failedNumbers, htext]

theorem failuresLast_cons_of_parsed (h : parsed? runtime reply = some result) :
    FailuresLast runtime (reply :: replies) ↔ FailuresLast runtime replies := by
  simp [FailuresLast, List.pairwise_cons, h]

/-- Behind a failure the failures come last only if there are no others. -/
theorem failuresLast_cons_of_failed (h : parsed? runtime reply = none) :
    FailuresLast runtime (reply :: replies) ↔ ∀ later ∈ replies, parsed? runtime later = none := by
  have hhead : FailuresLast runtime (reply :: replies) ↔
      (∀ later ∈ replies, parsed? runtime later = none) ∧ FailuresLast runtime replies := by
    simp [FailuresLast, List.pairwise_cons, h]
  rw [hhead, and_iff_left_iff_imp]
  intro hnone
  refine List.pairwise_of_forall_mem_list fun earlier _ later hlater hsome => ?_
  rw [hnone later hlater] at hsome
  cases hsome

end Cons

section Numbers

variable {runtime : Runtime} {replies : List (Except Failure String)}

theorem shownLabels_eq_nil (first : Nat) (h : ∀ reply ∈ replies, parsed? runtime reply = none) :
    shownLabels runtime first replies = [] := by
  rw [shownLabels, List.filterMap_eq_nil_iff.mpr h]
  rfl

theorem trueLabels_eq_nil (first : Nat) (h : ∀ reply ∈ replies, parsed? runtime reply = none) :
    trueLabels runtime first replies = [] := by
  rw [trueLabels, List.filterMap_eq_nil_iff]
  intro (reply, number) hmem
  exact congrArg (Option.map _) (h reply (List.fst_mem_of_mem_zipIdx hmem))

/-- Where there is a result, the first number is shown. -/
theorem exists_mem_shownLabels (first : Nat)
    (h : ¬ ∀ reply ∈ replies, parsed? runtime reply = none) :
    ∃ text, (first, text) ∈ shownLabels runtime first replies := by
  have hne : replies.filterMap (parsed? runtime) ≠ [] := mt List.filterMap_eq_nil_iff.mp h
  obtain ⟨result, results, hresults⟩ := List.exists_cons_of_ne_nil hne
  refine ⟨result.summary.text, ?_⟩
  rw [shownLabels, hresults, List.zipIdx_cons]
  exact List.mem_cons_self

theorem le_of_mem_trueLabels {first number : Nat} {text : String}
    (h : (number, text) ∈ trueLabels runtime first replies) : first ≤ number := by
  obtain ⟨⟨reply, number'⟩, hmem, hlabel⟩ := List.mem_filterMap.mp h
  obtain ⟨result, -, hpair⟩ := Option.map_eq_some_iff.mp hlabel
  rw [← (Prod.mk.inj hpair).1]
  exact List.le_snd_of_mem_zipIdx hmem

theorem le_of_mem_failedNumbers {first number : Nat}
    (h : number ∈ failedNumbers runtime first replies) : first ≤ number := by
  obtain ⟨⟨reply, number'⟩, hmem, hnumber⟩ := List.mem_filterMap.mp h
  obtain ⟨text, -, rfl⟩ := Option.map_eq_some_iff.mp hnumber
  exact List.le_snd_of_mem_zipIdx hmem

end Numbers

/-- **The numbers in a merged summary** are those of the batches exactly if the failures come
last. -/
theorem shownLabels_eq_trueLabels_iff (runtime : Runtime) (first : Nat)
    (replies : List (Except Failure String)) :
    shownLabels runtime first replies = trueLabels runtime first replies
      ↔ FailuresLast runtime replies := by
  induction replies generalizing first with
  | nil => exact iff_of_true rfl List.Pairwise.nil
  | cons reply rest ih =>
    cases h : parsed? runtime reply with
    | some result =>
      rw [shownLabels_cons_of_parsed first h, trueLabels_cons_of_parsed first h,
        List.cons_inj_right, ih, failuresLast_cons_of_parsed h]
    | none =>
      rw [shownLabels_cons_of_failed first h, trueLabels_cons_of_failed first h,
        failuresLast_cons_of_failed h]
      by_cases hnone : ∀ later ∈ rest, parsed? runtime later = none
      · rw [shownLabels_eq_nil first hnone, trueLabels_eq_nil (first + 1) hnone]
        exact iff_of_true rfl hnone
      · -- the number of the failed batch is shown, and no later batch has it
        obtain ⟨text, hshown⟩ := exists_mem_shownLabels first hnone
        refine iff_of_false (fun heq => ?_) hnone
        rw [heq] at hshown
        exact absurd (le_of_mem_trueLabels hshown) (Nat.not_succ_le_self first)

/-- **No number is used twice**, for a description and for a failed batch, exactly if the failures
come last. -/
theorem shownLabels_disjoint_iff (runtime : Runtime) (first : Nat)
    (replies : List (Except Failure String)) :
    (∀ label ∈ shownLabels runtime first replies, label.1 ∉ failedNumbers runtime first replies) ↔
      FailuresLast runtime replies := by
  induction replies generalizing first with
  | nil => exact iff_of_true (fun label hlabel => nomatch hlabel) List.Pairwise.nil
  | cons reply rest ih =>
    cases h : parsed? runtime reply with
    | some result =>
      have hfirst : first ∉ failedNumbers runtime (first + 1) rest := fun hmem =>
        absurd (le_of_mem_failedNumbers hmem) (Nat.not_succ_le_self first)
      rw [shownLabels_cons_of_parsed first h, failedNumbers_cons_of_parsed first h,
        failuresLast_cons_of_parsed h, ← ih (first + 1), List.forall_mem_cons]
      exact and_iff_right hfirst
    | none =>
      rw [shownLabels_cons_of_failed first h, failedNumbers_cons_of_failed first h,
        failuresLast_cons_of_failed h]
      by_cases hnone : ∀ later ∈ rest, parsed? runtime later = none
      · rw [shownLabels_eq_nil first hnone]
        exact iff_of_true (fun label hlabel => nomatch hlabel) hnone
      · obtain ⟨text, hshown⟩ := exists_mem_shownLabels first hnone
        exact iff_of_false (fun hfree => hfree _ hshown List.mem_cons_self) hnone

/-! ## Merged summaries -/

/-- A description with its number in front. -/
def labelled (label : Nat × String) : String :=
  s!"[Batch {label.1}] {label.2}"

/-- The summary of several results shows their descriptions, numbered as they are counted. -/
theorem summary_merge (runtime : Runtime) (replies : List (Except Failure String))
    (h : 2 ≤ (replies.filterMap (parsed? runtime)).length) :
    ∃ recommendation, (merge (replies.filterMap (parsed? runtime))).summary
      = .advised ("\n".intercalate ((shownLabels runtime 1 replies).map labelled))
        recommendation := by
  obtain ⟨one, two, results, hresults⟩ : ∃ one two results,
      replies.filterMap (parsed? runtime) = one :: two :: results := by
    match hmatch : replies.filterMap (parsed? runtime) with
    | [] => rw [hmatch] at h; simp at h
    | [one] => rw [hmatch] at h; simp at h
    | one :: two :: results => exact ⟨one, two, results, rfl⟩
  have hmerge : (merge (replies.filterMap (parsed? runtime))).summary
      = mergedSummary (replies.filterMap (parsed? runtime)) := by
    rw [hresults]
    rfl
  have hdescription : mergedDescription (replies.filterMap (parsed? runtime))
      = "\n".intercalate ((shownLabels runtime 1 replies).map labelled) := by
    rw [mergedDescription, List.mapIdx_eq_zipIdx_map, shownLabels, List.map_map,
      List.zipIdx_succ, List.map_map]
    rfl
  rw [hmerge, mergedSummary, hdescription]
  exact ⟨_, rfl⟩

/-! ## Whole runs -/

/-- The messages about failed batches, with the batches counted from one. -/
theorem errorTexts_eq (runtime : Runtime) (batches : List Batch)
    (replies : List (Except Failure String)) :
    errorTexts runtime batches replies =
      ((batches.zip replies).zipIdx 1).filterMap fun ((batch, reply), number) =>
        (failureText? runtime reply).map fun text =>
          s!"Batch {number} (lines {batch.start}-{batch.finish}) failed: {text}" := by
  rw [errorTexts, List.zipIdx_succ, List.filterMap_map]
  rfl

theorem length_results_add_errorTexts (runtime : Runtime) {batches : List Batch}
    {replies : List (Except Failure String)} (h : replies.length = batches.length) :
    (replies.filterMap (parsed? runtime)).length + (errorTexts runtime batches replies).length
      = batches.length := by
  rw [← resultsOf_outcomesOf 0 h, ← errorsOf_outcomesOf, length_resultsOf_add_errorsOf,
    length_outcomesOf 0 h]

/-- **The numbers of batches in a run.** The messages about failed batches have the numbers of these
batches. Where two batches have results, the summary shows the descriptions of all that have one,
with the numbers that count these alone. Those are the numbers of the batches exactly if the
failures come last, and exactly then no number is used for a failed batch as well. -/
theorem detect_labels {σ : Type} (host : Host (StateM σ)) (settings : Settings) (file : String)
    (options : Options) (analyzer : Option (Analyzer (StateM σ))) (counter : Option TokenCounter)
    {analyze : Analyzer (StateM σ)} {lines : List Line} {batches : List Batch}
    {s listed planned : Session × σ}
    (hchosen : chosenAnalyzer? host settings analyzer = some analyze)
    (hread : runFrom (readListing host settings options (Path.ofText file)) s
      = (.ok lines, listed))
    (hplan : runFrom (planBatches host settings options counter (chosenLines options lines)) listed
      = (.ok batches, planned)) :
    let run := (runFrom (detect host settings file options analyzer counter) s).1
    ∃ replies after,
      Exchange host.runtime analyze (announce host batches.length) 0 batches planned replies after ∧
      run.partialErrors =
        ((batches.zip replies).zipIdx 1).filterMap (fun ((batch, reply), number) =>
          (failureText? host.runtime reply).map fun text =>
            s!"Batch {number} (lines {batch.start}-{batch.finish}) failed: {text}") ∧
      (2 ≤ (replies.filterMap (parsed? host.runtime)).length →
        ∃ recommendation, run.result.map (·.summary) = some
          (.advised ("\n".intercalate ((shownLabels host.runtime 1 replies).map labelled))
            recommendation)) ∧
      (shownLabels host.runtime 1 replies = trueLabels host.runtime 1 replies ↔
        FailuresLast host.runtime replies) ∧
      ((∀ label ∈ shownLabels host.runtime 1 replies,
          label.1 ∉ failedNumbers host.runtime 1 replies) ↔
        FailuresLast host.runtime replies) := by
  intro run
  obtain ⟨source, warnings, -, htotal⟩ := source_of_readListing hread
  have hlines : lines ≠ [] := by
    rw [← List.length_pos_iff, htotal]
    exact List.length_pos_iff.mpr (Text.lines_ne_nil source.code)
  have hrun : run = (runFrom (runBatches host analyze (Path.ofText file)
      { path := file, totalLines := lines.length } batches) planned).1 := by
    show (runFrom (detect host settings file options analyzer counter) s).1 = _
    rw [runFrom_detect_configured hchosen, runFrom_runWith_planned hread hplan]
  have hstart : Pending { path := file, totalLines := lines.length } := ⟨rfl, rfl, rfl, rfl⟩
  obtain ⟨-, -, replies, after, hexchange, herrors, hsuccess, hmerged, -⟩ :=
    runFrom_runBatches_exchange host analyze (Path.ofText file) hstart
      (planBatches_ne_nil hplan hlines) planned
  rw [hrun]
  refine ⟨replies, after, hexchange, herrors.trans (errorTexts_eq host.runtime batches replies),
    fun htwo => ?_, shownLabels_eq_trueLabels_iff host.runtime 1 replies,
    shownLabels_disjoint_iff host.runtime 1 replies⟩
  -- two results are more than the one that a success needs
  have hsome : ∃ reply ∈ replies, (parsed? host.runtime reply).isSome = true := by
    obtain ⟨result, hresult⟩ := List.exists_mem_of_length_pos (Nat.lt_of_lt_of_le Nat.two_pos htwo)
    obtain ⟨reply, hreply, hparsed⟩ := List.mem_filterMap.mp hresult
    exact ⟨reply, hreply, by rw [hparsed]; rfl⟩
  obtain ⟨recommendation, hsummary⟩ := summary_merge host.runtime replies htwo
  refine ⟨recommendation, ?_⟩
  rw [(hmerged (hsuccess.mpr hsome)).1, Option.map_some, hsummary]

/-! ## A run whose first batch fails -/

/-- A world that counts calls, in which one file stands, with three lines. -/
def threeLineHost : Host (StateM Nat) where
  __ := twoLineHost
  disk := {
    look := fun path =>
      pure (if path = Path.ofText "three.js" then .file [97, 59, 10, 98, 59, 10, 99, 59]
        else .missing)
    write := fun _ _ => pure (.ok ()) }

/-- The analyser whose first call is answered too late, and every other with a result. -/
def firstLate : Analyzer (StateM Nat) := fun _ session calls =>
  ((if calls = 0 then .error lateAnswer
    else .ok ("\x7b\"summary\": \"" ++ (if calls = 1 then "second" else "third")
      ++ "\", \"regions\": []\x7d"), session), calls + 1)

/-- The run over the file, with a late answer to its first batch. -/
def headLate : Run :=
  (runFrom (detect threeLineHost asWritten "three.js" lineByLine (some firstLate)
    (some fun _ => 1)) ({}, 0)).1

/-- A run with a late first answer has a listing and three batches, and shows numbers in front of
two descriptions. -/
theorem detect_labels_headLate :
    ∃ lines listed batches planned replies,
      runFrom (readListing threeLineHost asWritten lineByLine (Path.ofText "three.js")) ({}, 0)
        = (.ok lines, listed) ∧
      runFrom (planBatches threeLineHost asWritten lineByLine (some fun _ => 1)
        (chosenLines lineByLine lines)) listed = (.ok batches, planned) ∧
      batches.length = 3 ∧ 2 ≤ (replies.filterMap (parsed? .usual)).length ∧
      ∃ recommendation, headLate.result.map (·.summary) = some
        (.advised ("\n".intercalate ((shownLabels .usual 1 replies).map labelled))
          recommendation) := by
  have hfailed : headLate.partialErrors.length = 1 := by decide +kernel
  have hlisted : (runFrom (readListing threeLineHost asWritten lineByLine (Path.ofText "three.js"))
      ({}, 0)).1.isOk = true := by decide +kernel
  have hplanned : (runFrom (readListing threeLineHost asWritten lineByLine
      (Path.ofText "three.js") >>= fun listing => planBatches threeLineHost asWritten lineByLine
        (some fun _ => 1) (chosenLines lineByLine (listing.toOption.getD []))) ({}, 0)).1.map
          List.length = .ok 3 := by decide +kernel
  obtain ⟨lines, listed, hread⟩ := exists_eq_ok hlisted
  rw [runFrom_bind, hread] at hplanned
  rcases hplan : runFrom (planBatches threeLineHost asWritten lineByLine (some fun _ => 1)
    (chosenLines lineByLine lines)) listed with ⟨fault | batches, planned⟩
  · cases (congrArg (·.1.map List.length) hplan).symm.trans hplanned
  have hcount : batches.length = 3 :=
    Except.ok.inj ((congrArg (·.1.map List.length) hplan).symm.trans hplanned)
  obtain ⟨replies, after, hexchange, herrors, hsummary, -, -⟩ :=
    detect_labels threeLineHost asWritten "three.js" lineByLine (some firstLate) (some fun _ => 1)
      rfl hread hplan
  have htwo : 2 ≤ (replies.filterMap (parsed? threeLineHost.runtime)).length := by
    have herrors' : (errorTexts threeLineHost.runtime batches replies).length = 1 := by
      rw [errorTexts_eq, ← herrors]
      exact hfailed
    have := length_results_add_errorTexts threeLineHost.runtime hexchange.length_replies
    omega
  exact ⟨lines, listed, batches, planned, replies, hread, hplan, hcount, htwo, hsummary htwo⟩

/-- There the description of the second batch is shown with the number of the first, which
failed. -/
theorem headLate_numbers_one_twice :
    headLate.partialErrors = ["Batch 1 (lines 1-1) failed: late"] ∧
      headLate.result.map (·.summary.text) = some "[Batch 1] second\n[Batch 2] third" := by
  decide +kernel

end VmScan.Detection
