import VmScan.Detection.Detect
import VmScan.Proofs.Batch.Budget
import VmScan.Proofs.Batch.Cover
import VmScan.Proofs.Script.KeepsLines

/-!
# Before a model is called

A detection reads a listing and plans batches before it sends anything. Both steps run in an
arbitrary world: the disk is a function of a state that it may change, so what stands at a path is
looked at once, in the state the run finds, and what stands beside it in the state behind that.

* `runFrom` — a step as a function of the session and the world.
* `entries` — what stands at the path of a file and beside it.

Results:
* `readListing_refused`, `planBatches_refused`: a path without a file and limits that are not
  positive end a run here.
* `source_of_readListing`: a listing has a line for each line of the source, whatever range is
  chosen.
* `planBatches_ne_nil`: a listing gives at least one batch.
-/

namespace VmScan.Detection

variable {σ : Type}

/-! ## Steps in a world -/

/-- A step as a function of the session and the world. -/
def runFrom {α : Type} (step : StateT Session (StateM σ) α) (s : Session × σ) :
    α × (Session × σ) :=
  let ended := (step.run s.1).run s.2
  (ended.1.1, ended.1.2, ended.2)

theorem runFrom_pure {α : Type} (a : α) (s : Session × σ) :
    runFrom (pure a : StateT Session (StateM σ) α) s = (a, s) := rfl

theorem runFrom_bind {α β : Type} (step : StateT Session (StateM σ) α)
    (next : α → StateT Session (StateM σ) β) (s : Session × σ) :
    runFrom (step >>= next) s = runFrom (next (runFrom step s).1) (runFrom step s).2 := rfl

/-! ## Listings and plans -/

section Format

variable {runtime : Json.Runtime} {preparation : Preparation} {limit : Int} {path : Path}
  {entry beside : Entry}

/-- A limit that is not positive gives no listing. -/
theorem formatFile_of_nonpos (h : limit ≤ 0) :
    ∃ fault, (Source.formatFile runtime preparation limit path entry beside).1 = .error fault := by
  unfold Source.formatFile Source.formatFileWith
  rcases Source.read runtime preparation path entry beside with fault | ⟨source, warnings⟩
  · exact ⟨fault, rfl⟩
  · have hformat : source.formatWith Script.literalSpans limit
        = .error (.truncate .limitNotPositive) := by
      rw [Source.formatWith, Script.truncateWith, if_pos h]
    simp only [Source.formatReadWith, hformat]
    exact ⟨_, rfl⟩

/-- A listing of a file has a line for each line of the source. -/
theorem source_of_formatFile {lines : List Line}
    (h : (Source.formatFile runtime preparation limit path entry beside).1 = .ok lines) :
    ∃ source warnings,
      Source.read runtime preparation path entry beside = .ok (source, warnings) ∧
      lines.length = (Text.lines source.code).length := by
  unfold Source.formatFile Source.formatFileWith at h
  rcases hread : Source.read runtime preparation path entry beside with fault | ⟨source, warnings⟩
  · rw [hread] at h
    cases h
  · rw [hread] at h
    rcases hformat : source.formatWith Script.literalSpans limit with fault | ⟨listed, more⟩
    · simp only [Source.formatReadWith, hformat] at h
      cases h
    · simp only [Source.formatReadWith, hformat, Except.ok.injEq] at h
      subst h
      exact ⟨source, warnings, rfl, Script.length_format hformat⟩

end Format

/-- A range of lines is never empty, unless there are no lines. -/
theorem select_ne_nil {lines : List Line} (first last : Int) (h : lines ≠ []) :
    Listing.select lines first last ≠ [] := by
  have hlength : 1 ≤ (lines.length : Int) := by
    have := List.length_pos_iff.mpr h
    omega
  obtain ⟨hstart, horder, hfinish⟩ := clampRange_bounds first last hlength
  rw [select_eq, ← List.length_pos_iff, List.length_drop, List.length_take]
  omega

/-- Batches are made of lines only. -/
theorem create_ne_nil {count : TokenCounter} {budget : Int} {lines : List String}
    {batches : List Batch} (h : Batch.create count budget lines = .ok batches) (hne : lines ≠ []) :
    batches ≠ [] := by
  obtain ⟨-, groups, hdivision, hbatches⟩ := Batching.forall₂_of_create h
  rintro rfl
  cases hbatches
  exact hne hdivision.joined.symm

section Plan

variable {host : Host (StateM σ)} {settings : Settings} {options : Options} {path : Path}
  {s s₁ : Session × σ} {lines : List Line}

/-- What stands at the path of a file, looked at in the world of `s`, and what stands beside it,
looked at afterwards. -/
def entries (host : Host (StateM σ)) (path : Path) (s : Session × σ) : Entry × Entry :=
  let entry := (host.disk.look path).run s.2
  (entry.1, ((host.disk.look (path.withSuffix Source.mapSuffix)).run entry.2).1)

/-- What comes of reading the script at the path, once the beautifier has made it readable. -/
def readingOf (host : Host (StateM σ)) (beautify : Beautifier (StateM σ)) (path : Path)
    (s : Session × σ) : Source.Reading :=
  let entry := (host.disk.look path).run s.2
  ((beautify path entry.1).run entry.2).1

/-- The listing of a file depends on what stands at its path and on what the beautifier makes of
it. -/
theorem fst_runFrom_readListingWith (host : Host (StateM σ)) (beautify : Beautifier (StateM σ))
    (limit : Int) (path : Path) (s : Session × σ) :
    (runFrom (readListingWith host beautify limit path) s).1 =
      if (entries host path s).1.isFile then
        (Source.formatRead limit (readingOf host beautify path s)).1.mapError .format
      else .error (.noFile path (entries host path s).1) := by
  unfold readListingWith
  rw [runFrom_bind]
  have hentry : (runFrom (liftM (host.disk.look path) : StateT Session (StateM σ) Entry) s).1
      = (entries host path s).1 := rfl
  rw [hentry]
  cases h : (entries host path s).1.isFile with
  | false => rfl
  | true => rfl

/-- The listing of a file depends on what stands at its path and beside it. -/
theorem fst_runFrom_readListing (host : Host (StateM σ)) (settings : Settings) (options : Options)
    (path : Path) (s : Session × σ) :
    (runFrom (readListing host settings options path) s).1 =
      if (entries host path s).1.isFile then
        (Source.formatFile host.runtime (preparation settings)
          (options.charLimit.getD settings.charLimit) path
          (entries host path s).1 (entries host path s).2).1.mapError .format
      else .error (.noFile path (entries host path s).1) :=
  fst_runFrom_readListingWith host (settingsBeautifier host settings) _ path s

/-- Neither a path without a file nor a limit that is not positive gives a listing. -/
theorem readListing_refused (h : (entries host path s).1.isFile = false ∨
      options.charLimit.getD settings.charLimit ≤ 0) :
    ∃ fault after, runFrom (readListing host settings options path) s = (.error fault, after) := by
  suffices hfault : ∃ fault,
      (runFrom (readListing host settings options path) s).1 = .error fault by
    obtain ⟨fault, hfault⟩ := hfault
    exact ⟨fault, _, Prod.ext hfault rfl⟩
  rw [fst_runFrom_readListing]
  split_ifs with hfile
  · obtain ⟨fault, hfault⟩ := formatFile_of_nonpos (h.resolve_left (by simp [hfile]))
    rw [hfault]
    exact ⟨_, rfl⟩
  · exact ⟨_, rfl⟩

/-- The listing of a file has a line for each line of the source, whatever range is chosen. -/
theorem source_of_readListing
    (h : runFrom (readListing host settings options path) s = (.ok lines, s₁)) :
    ∃ source warnings,
      Source.read host.runtime (preparation settings) path (entries host path s).1
        (entries host path s).2 = .ok (source, warnings) ∧
      lines.length = (Text.lines source.code).length := by
  have hlines := congrArg Prod.fst h
  rw [fst_runFrom_readListing] at hlines
  split_ifs at hlines with hfile
  · cases hformat : (Source.formatFile host.runtime (preparation settings)
        (options.charLimit.getD settings.charLimit) path (entries host path s).1
        (entries host path s).2).1 with
    | error fault => rw [hformat] at hlines; cases hlines
    | ok listed =>
      rw [hformat] at hlines
      obtain rfl := Except.ok.inj hlines
      exact source_of_formatFile hformat

/-- A budget that is not positive gives no batches. -/
theorem planBatches_refused {counter : Option TokenCounter}
    (h : options.maxTokens.getD settings.maxTokens ≤ 0) :
    ∃ fault, runFrom (planBatches host settings options counter lines) s = (.error fault, s) := by
  unfold planBatches
  cases lines.mapM (·.render) with
  | error fault => exact ⟨.render fault, rfl⟩
  | ok texts =>
    simp only [if_pos h]
    exact ⟨.budgetNotPositive, rfl⟩

/-- Lines that are not all rendered give no batches. -/
theorem planBatches_unrendered {counter : Option TokenCounter} {fault : Number.TextFault}
    (h : lines.mapM (·.render) = .error fault) :
    runFrom (planBatches host settings options counter lines) s = (.error (.render fault), s) := by
  unfold planBatches
  rw [h]
  rfl

/-- A positive budget gives the batches that some counter makes of the rendered lines. -/
theorem exists_create_of_planBatches {counter : Option TokenCounter} {texts : List String}
    (h : ¬ options.maxTokens.getD settings.maxTokens ≤ 0)
    (htexts : lines.mapM (·.render) = .ok texts) :
    ∃ count, (runFrom (planBatches host settings options counter lines) s).1
      = Batch.create count (options.maxTokens.getD settings.maxTokens) texts := by
  unfold planBatches
  rw [htexts]
  simp only [if_neg h]
  cases counter with
  | some count => exact ⟨count, rfl⟩
  | none =>
    rw [runFrom_bind]
    exact ⟨(runFrom (settingsCounter host settings) s).1, rfl⟩

/-- Batches that are planned for a listing are made from its chosen lines, and there is at least
one. -/
theorem planBatches_ne_nil {counter : Option TokenCounter} {batches : List Batch}
    (h : runFrom (planBatches host settings options counter (chosenLines options lines)) s
      = (.ok batches, s₁)) (hne : lines ≠ []) : batches ≠ [] := by
  have hbudget : ¬ options.maxTokens.getD settings.maxTokens ≤ 0 := by
    intro hbudget
    obtain ⟨fault, hrefused⟩ : ∃ fault, runFrom (planBatches host settings options counter
        (chosenLines options lines)) s = (.error fault, s) := planBatches_refused hbudget
    rw [hrefused] at h
    cases h
  cases htexts : (chosenLines options lines).mapM Line.render with
  | error fault =>
    rw [planBatches_unrendered htexts] at h
    cases h
  | ok texts =>
    have hchosen : texts ≠ [] := by
      rw [(Listing.mapM_render_eq_ok_iff.mp htexts).2, ne_eq, List.map_eq_nil_iff,
        chosenLines_eq_select]
      exact select_ne_nil _ _ hne
    obtain ⟨count, hcreate⟩ : ∃ count,
        (runFrom (planBatches host settings options counter (chosenLines options lines)) s).1
          = Batch.create count _ texts :=
      exists_create_of_planBatches hbudget htexts
    rw [h] at hcreate
    exact create_ne_nil hcreate.symm hchosen

end Plan

end VmScan.Detection
