import VmScan.Proofs.Detection.Mirror

/-!
# A range of a file, cut out or sent

The lines of a range reach a reader in two ways: cut out of the listing as one text
(`format_code_for_analysis`), or sent to an analyser in batches (`find_jsvmp_dispatcher`). Both
clamp the bounds, and each cuts the listing in its own way.

* `Spans` — what an excerpt holds: the rendered lines of a proper range, numbered as in the file.
* `recorded`, `recordedRun` — an analyser whose texts are written down, and a run with it.

Results:
* `spans_excerptOf`: whatever the bounds, the excerpt of a listing spans a range of it.
* `fst_recordedRun`: writing down what is sent changes nothing.
* `sent_analyzeFrom`: what is sent is what the batches hold, in their order.
* `excerpt_eq_sent`: the batches that a detection sends, joined, are the excerpt.
-/

namespace VmScan

open Listing Detection

/-! ## Excerpts -/

/-- The excerpt holds the rendered lines of a proper range, numbered as in the file. -/
structure Spans (lines : List Line) (first last : Int) (excerpt : Excerpt) : Prop where
  content : ∃ texts, (select lines first last).mapM (·.render) = .ok texts ∧
    excerpt.content = Text.unlines texts
  totalLines : excerpt.totalLines = lines.length
  one_le_start : 1 ≤ excerpt.start
  start_le_finish : excerpt.start ≤ excerpt.finish
  finish_le_total : excerpt.finish ≤ excerpt.totalLines
  count : ((Text.lines excerpt.content).length : Int) = excerpt.finish - excerpt.start + 1
  /-- The lines of the text are the rendered lines of the file from the start on. -/
  numbered : ∀ (k : Nat) (text : String), (Text.lines excerpt.content)[k]? = some text →
    ∃ line, lines[(excerpt.start - 1).toNat + k]? = some line ∧
      line.number = excerpt.start + k ∧ line.render = .ok text
  /-- Bounds that are proper already are kept. -/
  kept : 1 ≤ first → first ≤ last → last ≤ lines.length →
    excerpt.start = first ∧ excerpt.finish = last

/-- The texts as an excerpt of the lines. -/
def excerptOf (lines : List Line) (first last : Int) (texts : List String) : Excerpt where
  content := Text.unlines texts
  totalLines := lines.length
  start := (clampRange first last lines.length).1
  finish := (clampRange first last lines.length).2

/-- An excerpt is made of the rendered lines of the range. -/
theorem formatRange_eq (lines : List Line) (first last : Int) :
    formatRange lines first last
      = ((select lines first last).mapM Line.render).map (excerptOf lines first last) := by
  have hlines : lines.extract ((clampRange first last lines.length).1 - 1).toNat
      (clampRange first last lines.length).2.toNat = select lines first last := by
    rw [select_eq, List.extract_eq_take_drop, List.drop_take]
  simp only [formatRange, hlines]
  cases (select lines first last).mapM Line.render <;> rfl

theorem clampRange_of_proper {first last total : Int} (hfirst : 1 ≤ first) (hle : first ≤ last)
    (hlast : last ≤ total) : clampRange first last total = (first, last) := by
  simp only [clampRange, Prod.mk.injEq]
  omega

theorem length_select (lines : List Line) (first last : Int) (h : 1 ≤ (lines.length : Int)) :
    ((select lines first last).length : Int)
      = (clampRange first last lines.length).2 - (clampRange first last lines.length).1 + 1 := by
  obtain ⟨hstart, horder, hfinish⟩ := clampRange_bounds first last h
  rw [select_eq, List.length_drop, List.length_take]
  omega

/-- **Excerpts of a listing span a range of it**, whatever the bounds. -/
theorem spans_excerptOf (code : String) (map : Option SourceMap.Mapping) (first last : Int)
    {texts : List String}
    (htexts : (select (listing code map) first last).mapM (·.render) = .ok texts) :
    Spans (listing code map) first last (excerptOf (listing code map) first last texts) := by
  have hlength := one_le_length_listing code map
  obtain ⟨hstart, horder, hfinish⟩ := clampRange_bounds first last hlength
  obtain ⟨hwritable, hwritten⟩ := mapM_render_eq_ok_iff.mp htexts
  have hcount := length_select (listing code map) first last hlength
  have hlines : Text.lines (excerptOf (listing code map) first last texts).content
      = (select (listing code map) first last).map (·.written) := by
    have hne : texts ≠ [] := by
      rw [hwritten, ← List.length_pos_iff, List.length_map]
      omega
    rw [← hwritten]
    refine Text.lines_unlines hne fun written hmem => ?_
    rw [hwritten] at hmem
    obtain ⟨line, hline, rfl⟩ := List.mem_map.mp hmem
    exact lf_not_mem_written
      (lf_not_mem_of_mem_listing (mem_listing_of_mem_select code map first last hline))
  refine ⟨⟨texts, htexts, rfl⟩, rfl, hstart, horder, hfinish, ?_, ?_, ?_⟩
  · rw [hlines, List.length_map]
    exact hcount
  · intro k text htext
    rw [hlines, List.getElem?_map, Option.map_eq_some_iff] at htext
    obtain ⟨line, hline, rfl⟩ := htext
    have hrender := render_of_writable (hwritable line (List.mem_of_getElem? hline))
    rw [select_eq, List.getElem?_drop, List.getElem?_take] at hline
    split_ifs at hline
    refine ⟨line, hline, ?_, hrender⟩
    have hnumber := number_of_getElem?_listing hline
    show line.number = (clampRange first last (listing code map).length).1 + k
    omega
  · intro hfirst hle hlast
    have hclamp := clampRange_of_proper hfirst hle hlast
    exact ⟨congrArg Prod.fst hclamp, congrArg Prod.snd hclamp⟩

/-- The lines of a script that was read are a listing. -/
theorem exists_listing_of_formatRead {limit : Int} {reading : Source.Reading} {lines : List Line}
    (h : (Source.formatRead limit reading).1 = .ok lines) :
    ∃ code map, lines = listing code map := by
  unfold Source.formatRead Source.formatReadWith Source.formatWith at h
  rcases reading with fault | ⟨source, warnings⟩
  · cases h
  · simp only at h
    cases hshort : Script.truncateWith Script.literalSpans source.code limit with
    | error fault =>
      rw [hshort] at h
      cases h
    | ok shortened =>
      rw [hshort] at h
      cases h
      exact ⟨shortened.code, source.map, rfl⟩

/-- A line of a listing that is rendered can be read back. -/
theorem readable_of_mem_listing {code : String} {map : Option SourceMap.Mapping} {line : Line}
    (h : line ∈ listing code map) (hwritable : line.Writable) : Readable line :=
  have hnumber := number_nonneg_of_mem_listing h
  ⟨hnumber, (Number.writable_iff_length hnumber).mp hwritable.number⟩

/-! ## Writing down what is sent -/

section Recording

variable {σ : Type}

/-- The analyser, with the texts that it is given written down. -/
def recorded (analyze : Analyzer (StateM σ)) : Analyzer (StateM (σ × List String)) :=
  fun code session (w, sent) =>
    let ended := ((analyze code).run session).run w
    (ended.1, ended.2, sent ++ [code])

/-- A run with the texts that it sends. -/
def recordedRun (beautifier : Option (Beautifier (StateM σ))) (host : Host (StateM σ))
    (settings : Settings) (file : String) (options : Options) (analyze : Analyzer (StateM σ))
    (counter : Option TokenCounter) (s : Session × σ) : Run × List String :=
  let ended := runFrom (detectWith (beautifier.map (widenedBeautifier _)) (widenedHost _ host)
    settings file options (some (recorded analyze)) counter) (s.1, s.2, [])
  (ended.1, ended.2.2.2)

/-- **Writing down what is sent changes nothing.** -/
theorem fst_recordedRun (beautifier : Option (Beautifier (StateM σ))) (host : Host (StateM σ))
    (settings : Settings) (file : String) (options : Options) (analyze : Analyzer (StateM σ))
    (counter : Option TokenCounter) (s : Session × σ) :
    (recordedRun beautifier host settings file options analyze counter s).1
      = (runFrom (detectWith beautifier host settings file options (some analyze) counter) s).1 := by
  have hanalyze (code : String) : Mirrored Within (analyze code) (recorded analyze code) := by
    rintro session _ ⟨w, sent⟩ rfl
    exact ⟨rfl, rfl⟩
  have hrun := mirrored_runWith hanalyze (mirrored_widenedHost mirrors_within host)
    (mirrors_chosenBeautifier mirrors_within host settings beautifier) settings options counter
    (Path.ofText file) { path := file }
  exact congrArg Prod.fst (hrun s.1 s.2 (s.2, []) rfl).1

/-- The step writes nothing down. -/
def Quiet {α : Type} (step : StateT Session (StateM (σ × List String)) α) : Prop :=
  ∀ s, (runFrom step s).2.2.2 = s.2.2

theorem quiet_of_mirrored {α : Type} {here : StateT Session (StateM σ) α}
    {there : StateT Session (StateM (σ × List String)) α}
    (h : ∀ sent, Mirrored (Beside sent) here there) : Quiet there := by
  rintro ⟨session, w, sent⟩
  have hworld : (runFrom there (session, w, sent)).2.2 = (((here.run session).run w).2, sent) :=
    (h sent session w (w, sent) rfl).2
  rw [hworld]

variable {host : Host (StateM σ)} {settings : Settings} {options : Options}
  {counter : Option TokenCounter} {analyze : Analyzer (StateM σ)} {path : Path} {run : Run}

theorem quiet_failed (fault : RunFault) :
    Quiet (failed (widenedHost (List String) host) path run fault) :=
  quiet_of_mirrored fun sent =>
    mirrored_failed (mirrored_widenedHost (mirrors_beside sent) host) path run fault

theorem quiet_announce (total : Nat) (outcome : BatchOutcome) :
    Quiet (announce (widenedHost (List String) host) total outcome) :=
  quiet_of_mirrored fun sent =>
    mirrored_announce (mirrored_widenedHost (mirrors_beside sent) host) total outcome

theorem quiet_planBatches (lines : List Line) :
    Quiet (planBatches (widenedHost (List String) host) settings options counter lines) :=
  quiet_of_mirrored fun sent =>
    mirrored_planBatches (mirrored_widenedHost (mirrors_beside sent) host) settings options counter
      lines

/-- **What is sent is what the batches hold**, in their order, whatever the replies. -/
theorem sent_analyzeFrom (runtime : Json.Runtime)
    {tell : BatchOutcome → StateT Session (StateM (σ × List String)) Unit}
    (htell : ∀ outcome, Quiet (tell outcome)) (index : Nat) (batches : List Batch)
    (s : Session × σ × List String) :
    (runFrom (analyzeFrom runtime (recorded analyze) tell index batches) s).2.2.2
      = s.2.2 ++ batches.map (·.content) := by
  induction batches generalizing index s with
  | nil => exact (List.append_nil s.2.2).symm
  | cons batch rest ih =>
    let answered := runFrom (recorded analyze batch.content) s
    let outcome : BatchOutcome := { index, batch, outcome := parseAnswer runtime answered.1 }
    let told := runFrom (tell outcome) answered.2
    have hstep :
        (runFrom (analyzeFrom runtime (recorded analyze) tell index (batch :: rest)) s).2
        = (runFrom (analyzeFrom runtime (recorded analyze) tell (index + 1) rest) told.2).2 := rfl
    have htold : told.2.2.2 = s.2.2 ++ [batch.content] := htell outcome answered.2
    rw [hstep, ih, htold, List.map_cons, List.append_assoc, List.singleton_append]

theorem sent_runBatches (batches : List Batch) (s : Session × σ × List String) :
    (runFrom (runBatches (widenedHost _ host) (recorded analyze) path run batches) s).2.2.2
      = s.2.2 ++ batches.map (·.content) := by
  have htell (outcome : BatchOutcome) :
      Quiet (announce (widenedHost (List String) host) batches.length outcome) :=
    quiet_announce batches.length outcome
  rw [← sent_analyzeFrom host.runtime htell 0 batches s]
  unfold runBatches
  rw [runFrom_bind]
  simp only
  split
  · rfl
  · exact quiet_failed _ _

/-- The batches of lines that are rendered and can be read back, joined, are the chosen lines. -/
theorem sent_runLines {lines : List Line} {texts : List String}
    (hbudget : 1 ≤ options.maxTokens.getD settings.maxTokens)
    (htexts : (chosenLines options lines).mapM (·.render) = .ok texts)
    (hread : ∀ line ∈ chosenLines options lines, Readable line)
    (hchain : (chosenLines options lines).IsChain Follows) (s : Session × σ × List String) :
    ∃ batches : List Batch,
      (runFrom (runLines (widenedHost _ host) settings options counter (recorded analyze) path run
        lines) s).2.2.2 = s.2.2 ++ batches.map (·.content) ∧
      Text.unlines (batches.map (·.content)) = Text.unlines texts := by
  obtain ⟨count, hcount⟩ : ∃ count, (runFrom (planBatches (widenedHost _ host) settings options
      counter (chosenLines options lines)) s).1 = Batch.create count _ texts :=
    exists_create_of_planBatches (by omega) htexts
  obtain ⟨-, rfl⟩ := mapM_render_eq_ok_iff.mp htexts
  obtain ⟨batches, groups, hcreate, houtline, hflatten, hne⟩ :=
    exists_create_map_outline count hbudget hread hchain
  refine ⟨batches, ?_, ?_⟩
  · unfold runLines
    rw [runFrom_bind, hcount, hcreate, ← quiet_planBatches (chosenLines options lines) s]
    exact sent_runBatches batches _
  · rw [unlines_content houtline hne, hflatten]

/-! ## The two ways agree -/

variable (host settings options counter analyze)

/-- The listing of a run that is written down is that of the script as it is read, and nothing has
been sent yet. -/
theorem exists_read_of_isFile (beautifier : Option (Beautifier (StateM σ))) (file : String)
    (s : Session × σ) (hfile : (entries host (Path.ofText file) s).1.isFile = true) :
    let reading := readingOf host (beautifier.getD (settingsBeautifier host settings))
      (Path.ofText file) s
    let limit := options.charLimit.getD settings.charLimit
    ∃ listed : Session × σ × List String, listed.2.2 = [] ∧
      runFrom (readListingWith (widenedHost _ host) ((beautifier.map (widenedBeautifier _)).getD
        (settingsBeautifier (widenedHost _ host) settings)) limit (Path.ofText file))
        (s.1, s.2, []) = ((Source.formatRead limit reading).1.mapError .format, listed) := by
  intro reading limit
  have hmirror (sent : List String) := mirrored_readListingWith
    (mirrored_widenedHost (mirrors_beside sent) host)
    (mirrors_chosenBeautifier (mirrors_beside sent) host settings beautifier) limit
    (Path.ofText file)
  have hlisting := fst_runFrom_readListingWith host
    (beautifier.getD (settingsBeautifier host settings)) limit (Path.ofText file) s
  rw [if_pos hfile] at hlisting
  have hsame := congrArg Prod.fst (hmirror [] s.1 s.2 (s.2, []) rfl).1
  exact ⟨_, quiet_of_mirrored hmirror (s.1, s.2, []), Prod.ext (hsame.trans hlisting) rfl⟩

/-- Without a listing a run ends with the fault, and nothing is sent. -/
theorem recordedRun_unread {file : String} {beautifier : Option (Beautifier (StateM σ))}
    {s : Session × σ} (hfile : (entries host (Path.ofText file) s).1.isFile = true)
    {fault : FormatFault}
    (hfault : (Source.formatRead (options.charLimit.getD settings.charLimit) (readingOf host
      (beautifier.getD (settingsBeautifier host settings)) (Path.ofText file) s)).1
        = .error fault) :
    recordedRun beautifier host settings file options analyze counter s
      = ({ path := file, error := some fault.message }, []) := by
  obtain ⟨listed, hnone, hread⟩ :=
    exists_read_of_isFile host settings options beautifier file s hfile
  rw [hfault] at hread
  unfold recordedRun
  rw [runFrom_detectWith_configured rfl, runFrom_runWith_unread hread]
  have hquiet : Quiet (failed (widenedHost (List String) host) (Path.ofText file) { path := file }
      (.format fault)) := quiet_failed _
  exact Prod.ext rfl ((hquiet listed).trans hnone)

/-- Where a chosen line is not rendered a run ends with the fault, and nothing is sent. -/
theorem recordedRun_unrendered {file : String} {beautifier : Option (Beautifier (StateM σ))}
    {s : Session × σ} (hfile : (entries host (Path.ofText file) s).1.isFile = true)
    {lines : List Line}
    (hlines : (Source.formatRead (options.charLimit.getD settings.charLimit) (readingOf host
      (beautifier.getD (settingsBeautifier host settings)) (Path.ofText file) s)).1
        = .ok lines)
    {fault : Number.TextFault}
    (hfault : (chosenLines options lines).mapM (·.render) = .error fault) :
    recordedRun beautifier host settings file options analyze counter s
      = ({ path := file, totalLines := lines.length, error := some fault.message }, []) := by
  obtain ⟨listed, hnone, hread⟩ :=
    exists_read_of_isFile host settings options beautifier file s hfile
  rw [hlines] at hread
  unfold recordedRun
  rw [runFrom_detectWith_configured rfl,
    runFrom_runWith_unplanned hread (planBatches_unrendered hfault)]
  have hquiet : Quiet (failed (widenedHost (List String) host) (Path.ofText file)
      { path := file, totalLines := lines.length } (.batches (.render fault))) := quiet_failed _
  exact Prod.ext rfl ((hquiet listed).trans hnone)

/-- With a listing a run goes on over its lines, with nothing sent yet. -/
theorem recordedRun_read {file : String} {beautifier : Option (Beautifier (StateM σ))}
    {s : Session × σ} (hfile : (entries host (Path.ofText file) s).1.isFile = true)
    {lines : List Line}
    (hlines : (Source.formatRead (options.charLimit.getD settings.charLimit) (readingOf host
      (beautifier.getD (settingsBeautifier host settings)) (Path.ofText file) s)).1
        = .ok lines) :
    ∃ listed : Session × σ × List String, listed.2.2 = [] ∧
      (recordedRun beautifier host settings file options analyze counter s).2
        = (runFrom (runLines (widenedHost _ host) settings options counter (recorded analyze)
          (Path.ofText file) { path := file } lines) listed).2.2.2 := by
  obtain ⟨listed, hnone, hread⟩ :=
    exists_read_of_isFile host settings options beautifier file s hfile
  rw [hlines] at hread
  refine ⟨listed, hnone, ?_⟩
  unfold recordedRun
  rw [runFrom_detectWith_configured rfl, runFrom_runWith_read hread]

/-- **A range of a file is the same cut out or sent.** For every file, beautifier, analyser, counter
and positive budget, and whatever the bounds: if there is no listing, or a line of the range is not
rendered, both ways end with the same fault, and nothing is sent. Else the excerpt spans a range of
the listing, and the texts that are sent, joined, are the excerpt. -/
theorem excerpt_eq_sent (file : String) (beautifier : Option (Beautifier (StateM σ)))
    (s : Session × σ) {first last : Int} (hfirst : options.start = some first)
    (hlast : options.finish = some last)
    (hfile : (entries host (Path.ofText file) s).1.isFile = true)
    (hbudget : 1 ≤ options.maxTokens.getD settings.maxTokens) :
    let reading := readingOf host (beautifier.getD (settingsBeautifier host settings))
      (Path.ofText file) s
    let limit := options.charLimit.getD settings.charLimit
    let ended := recordedRun beautifier host settings file options analyze counter s
    (∀ fault, (Source.formatRead limit reading).1 = .error fault →
      (Source.excerpt limit first last reading).1 = .error fault ∧
        ended.1.error = some fault.message ∧ ended.2 = []) ∧
    ∀ lines, (Source.formatRead limit reading).1 = .ok lines →
      (∀ fault, (select lines first last).mapM (·.render) = .error fault →
        (Source.excerpt limit first last reading).1 = .error (.render fault) ∧
          ended.1.error = some fault.message ∧ ended.2 = []) ∧
      ∀ texts, (select lines first last).mapM (·.render) = .ok texts →
        ∃ excerpt, (Source.excerpt limit first last reading).1 = .ok excerpt ∧
          Spans lines first last excerpt ∧
          Text.unlines ended.2 = excerpt.content := by
  intro reading limit ended
  have hexcerpt : (Source.excerpt limit first last reading).1
      = (Source.formatRead limit reading).1.bind fun lines =>
        (formatRange lines first last).mapError .render := rfl
  refine ⟨fun fault hfault => ?_, fun lines hlines => ?_⟩
  · have hended : ended = _ := recordedRun_unread host settings options counter analyze hfile hfault
    rw [hexcerpt, hfault, hended]
    exact ⟨rfl, rfl, rfl⟩
  · have hchosen : chosenLines options lines = select lines first last := by
      rw [chosenLines_eq_select, hfirst, hlast, Option.getD_some, Option.getD_some]
    have hrange : (Source.excerpt limit first last reading).1
        = (((select lines first last).mapM Line.render).map (excerptOf lines first last)).mapError
          .render := by
      rw [hexcerpt, hlines, ← formatRange_eq]
      rfl
    refine ⟨fun fault hfault => ?_, fun texts htexts => ?_⟩
    · have hended : ended = _ := recordedRun_unrendered host settings options counter analyze hfile
        hlines (hchosen ▸ hfault)
      rw [hrange, hfault, hended]
      exact ⟨rfl, rfl, rfl⟩
    · obtain ⟨code, map, rfl⟩ := exists_listing_of_formatRead hlines
      refine ⟨excerptOf (listing code map) first last texts, by rw [hrange, htexts]; rfl,
        spans_excerptOf code map first last htexts, ?_⟩
      obtain ⟨listed, hnone, hsent⟩ :=
        recordedRun_read host settings options counter analyze hfile hlines
      have hread : ∀ line ∈ chosenLines options (listing code map), Readable line := by
        intro line hline
        rw [hchosen] at hline
        exact readable_of_mem_listing (mem_listing_of_mem_select code map first last hline)
          ((mapM_render_eq_ok_iff.mp htexts).1 line hline)
      have hchain : (chosenLines options (listing code map)).IsChain Follows := by
        rw [hchosen]
        exact isChain_select code map first last
      obtain ⟨batches, hbatches, hjoined⟩ :=
        sent_runLines hbudget (hchosen ▸ htexts) hread hchain listed
      rw [hsent, hbatches, hnone, List.nil_append, hjoined]
      rfl

end Recording

/-- The bounds of a range that starts in front of the file and ends behind it, with a batch for each
line. -/
def wideBounds : Options where
  start := some (-3)
  finish := some 9
  maxTokens := some 1

/-- The second line of the file is sent in a batch of its own, and both are in the excerpt. -/
theorem excerpt_eq_sent_twoLines :
    (entries twoLineHost (Path.ofText "two.js") ({}, 0)).1.isFile = true ∧
      ∃ lines excerpt, lines.length = 2 ∧ Spans lines (-3) 9 excerpt ∧
        Text.unlines (recordedRun none twoLineHost asWritten "two.js" wideBounds firstInTime
          (some fun _ => 1) ({}, 0)).2 = excerpt.content := by
  have hfile : (entries twoLineHost (Path.ofText "two.js") ({}, 0)).1.isFile = true := by
    decide +kernel
  let reading := readingOf twoLineHost (settingsBeautifier twoLineHost asWritten)
    (Path.ofText "two.js") ({}, 0)
  have hlength : (Source.formatRead asWritten.charLimit reading).1.toOption.map List.length
      = some 2 := by decide +kernel
  have hrendered : (Source.formatRead asWritten.charLimit reading).1.toOption.all fun lines =>
      ((select lines (-3) 9).mapM Line.render).isOk := by decide +kernel
  cases hlines : (Source.formatRead asWritten.charLimit reading).1 with
  | error fault =>
    rw [hlines] at hlength
    cases hlength
  | ok lines =>
    rw [hlines] at hlength hrendered
    cases htexts : (select lines (-3) 9).mapM Line.render with
    | error fault =>
      have hok : ((select lines (-3) 9).mapM Line.render).isOk = true := hrendered
      rw [htexts] at hok
      cases hok
    | ok texts =>
      obtain ⟨excerpt, -, hspans, hsent⟩ :=
        ((excerpt_eq_sent twoLineHost asWritten wideBounds (some fun _ => 1) firstInTime "two.js"
          none ({}, 0) rfl rfl hfile (by decide)).2 lines hlines).2 texts htexts
      exact ⟨hfile, lines, excerpt, Option.some.inj hlength, hspans, hsent⟩

end VmScan
