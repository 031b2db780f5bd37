import Mathlib.Data.List.Chain
import VmScan.Detection.Detect
import VmScan.Proofs.Batch.Pack
import VmScan.Proofs.Listing.Written

/-!
# Batches cover the chosen lines

From a text to the batches that a model sees, through four steps: the listing numbers the lines
(`format_lines`), a range is chosen (`select_line_range`), the written lines are packed
(`split_by_token_limit`), and the range of each batch is read back from its first and last written
line (`create_batches`).

* `Follows` — one line is numbered next after another.
* `Listing.outline`, `Batch.outline` — the first and last number and the text, of a group of lines
  and of a batch.

Results:
* `chosenLines_eq_select`: choosing lines is clamping and slicing, also where no bound is set.
* `exists_create_map_outline`: packing written lines never fails, and each batch outlines a group.
* `create_chosenLines`: the batches cover the chosen lines, in order, each exactly once.
-/

namespace VmScan

open Listing Detection

/-! ## The chosen lines -/

/-- The second line is numbered next after the first. -/
def Follows (a b : Line) : Prop :=
  b.number = a.number + 1

theorem isChain_listing (code : String) (map : Option SourceMap.Mapping) :
    (listing code map).IsChain Follows := by
  rw [List.isChain_iff_getElem]
  intro index hindex
  have hfirst := number_of_getElem?_listing (List.getElem?_eq_getElem (Nat.lt_of_succ_lt hindex))
  have hsecond := number_of_getElem?_listing (List.getElem?_eq_getElem hindex)
  unfold Follows
  rw [hfirst, hsecond]
  omega

/-- In a row of consecutive lines the numbers count up from the first. -/
theorem number_of_isChain {first line : Line} : ∀ {lines : List Line} {index : Nat},
    (first :: lines).IsChain Follows → (first :: lines)[index]? = some line →
      line.number = first.number + index
  | _, 0, _, h => by
    rw [List.getElem?_cons_zero, Option.some.injEq] at h
    rw [h]
    omega
  | [], index + 1, _, h => by
    rw [List.getElem?_cons_succ] at h
    exact absurd h (by simp)
  | second :: lines, index + 1, hchain, h => by
    rw [List.isChain_cons_cons] at hchain
    rw [List.getElem?_cons_succ] at h
    have hnumber := number_of_isChain hchain.2 h
    have hsecond : second.number = first.number + 1 := hchain.1
    rw [hnumber, hsecond]
    omega

/-- A clamped range lies within the lines and does not end before it starts. -/
theorem clampRange_bounds (first last : Int) {total : Int} (h : 1 ≤ total) :
    1 ≤ (clampRange first last total).1 ∧
      (clampRange first last total).1 ≤ (clampRange first last total).2 ∧
      (clampRange first last total).2 ≤ total := by
  simp only [clampRange]
  omega

theorem select_eq (lines : List Line) (first last : Int) :
    select lines first last
      = (lines.take (clampRange first last lines.length).2.toNat).drop
        ((clampRange first last lines.length).1 - 1).toNat := rfl

/-- Choosing lines is clamping and slicing, also where no bound is set. -/
theorem chosenLines_eq_select (options : Options) (lines : List Line) :
    chosenLines options lines
      = select lines (options.start.getD 1) (options.finish.getD lines.length) := by
  unfold chosenLines
  split_ifs with h
  · rw [Bool.and_eq_true, Option.isNone_iff_eq_none, Option.isNone_iff_eq_none] at h
    rw [h.1, h.2, Option.getD_none, Option.getD_none]
    have hfirst : ((clampRange 1 lines.length lines.length).1 - 1).toNat = 0 := by
      simp only [clampRange]
      omega
    have hlast : lines.length ≤ (clampRange 1 lines.length lines.length).2.toNat := by
      simp only [clampRange]
      omega
    rw [select_eq, hfirst, List.drop_zero, List.take_of_length_le hlast]
  · rfl

section Range

variable (code : String) (map : Option SourceMap.Mapping) (first last : Int)

theorem one_le_length_listing : 1 ≤ ((listing code map).length : Int) := by
  rw [length_listing]
  have := List.length_pos_iff.mpr (Text.lines_ne_nil code)
  omega

/-- The first chosen line has the number at which the clamped range starts. -/
theorem head?_select :
    (select (listing code map) first last).head?.map (·.number)
      = some (clampRange first last (listing code map).length).1 := by
  obtain ⟨hstart, horder, hfinish⟩ :=
    clampRange_bounds first last (one_le_length_listing code map)
  rw [select_eq]
  generalize clampRange first last (listing code map).length = range at *
  have hlt : (range.1 - 1).toNat < (listing code map).length := by omega
  rw [List.head?_drop, List.getElem?_take_of_lt (by omega), List.getElem?_eq_getElem hlt,
    Option.map_some, number_of_getElem?_listing (List.getElem?_eq_getElem hlt)]
  congr 1
  omega

/-- The last chosen line has the number at which the clamped range ends. -/
theorem getLast?_select :
    (select (listing code map) first last).getLast?.map (·.number)
      = some (clampRange first last (listing code map).length).2 := by
  obtain ⟨hstart, horder, hfinish⟩ :=
    clampRange_bounds first last (one_le_length_listing code map)
  rw [select_eq]
  generalize clampRange first last (listing code map).length = range at *
  have hlt : range.2.toNat - 1 < (listing code map).length := by omega
  have hdrop : ¬ ((listing code map).take range.2.toNat).length ≤ (range.1 - 1).toNat := by
    rw [List.length_take]
    omega
  rw [List.getLast?_drop, if_neg hdrop, List.getLast?_take, if_neg (by omega),
    List.getElem?_eq_getElem hlt, Option.some_or, Option.map_some,
    number_of_getElem?_listing (List.getElem?_eq_getElem hlt)]
  congr 1
  omega

theorem isChain_select : (select (listing code map) first last).IsChain Follows :=
  ((isChain_listing code map).take _).drop _

theorem mem_listing_of_mem_select {line : Line} (h : line ∈ select (listing code map) first last) :
    line ∈ listing code map :=
  List.mem_of_mem_take (List.mem_of_mem_drop h)

end Range

/-! ## From groups of lines to batches -/

/-- The first and last number and the text of a group of lines. -/
def Listing.outline (group : List Line) : Option Int × Option Int × String :=
  (group.head?.map (·.number), group.getLast?.map (·.number),
    Text.unlines (group.map (·.written)))

/-- The first and last number and the text of a batch. -/
def Batch.outline (batch : Batch) : Option Int × Option Int × String :=
  (some batch.start, some batch.finish, batch.content)

/-- The number of the line can be read back from its written form. -/
def Readable (line : Line) : Prop :=
  0 ≤ line.number ∧ (toString line.number).length ≤ Number.maxDigits

theorem numberOf_written {line : Line} (h : Readable line) :
    Batch.numberOf line.written = .ok line.number := by
  have hline : line.number = (line.number.toNat : Int) := (Int.toNat_of_nonneg h.1).symm
  rw [Batch.numberOf, lineNumber_written hline h.2]
  exact congrArg Except.ok hline.symm

theorem number_of_getLast? {first last : Line} {lines : List Line}
    (hchain : (first :: lines).IsChain Follows) (h : (first :: lines).getLast? = some last) :
    last.number = first.number + lines.length := by
  rw [List.getLast?_eq_getElem?, List.length_cons, Nat.add_sub_cancel] at h
  exact number_of_isChain hchain h

/-- A group of consecutive lines makes a batch that outlines it. -/
theorem exists_ofGroup (count : TokenCounter) {group : List Line} (hne : group ≠ [])
    (hread : ∀ line ∈ group, Readable line) (hchain : group.IsChain Follows) :
    ∃ batch, Batch.ofGroup count (group.map (·.written)) = .ok batch ∧
      batch.outline = outline group := by
  obtain ⟨first, lines, rfl⟩ := List.exists_cons_of_ne_nil hne
  obtain ⟨last, hlast⟩ : ∃ last, (first :: lines).getLast? = some last :=
    ⟨_, List.getLast?_eq_some_getLast hne⟩
  have hordered : first.number ≤ last.number := by
    rw [number_of_getLast? hchain hlast]
    omega
  have hfirstRead : Batch.numberOf (((first :: lines).map (·.written)).headD "")
      = .ok first.number := numberOf_written (hread first List.mem_cons_self)
  have hlastRead : Batch.numberOf (((first :: lines).map (·.written)).getLastD "")
      = .ok last.number := by
    rw [List.getLastD_eq_getLast?, List.getLast?_map, hlast]
    exact numberOf_written (hread last (List.mem_of_getLast? hlast))
  refine ⟨{ start := first.number, finish := last.number, ordered := hordered
            content := Text.unlines ((first :: lines).map (·.written))
            tokenCount := count (Text.unlines ((first :: lines).map (·.written))) }, ?_, ?_⟩
  · unfold Batch.ofGroup
    rw [hfirstRead, hlastRead]
    exact dif_pos hordered
  · rw [Batch.outline, outline, hlast]
    rfl

/-- Groups of consecutive lines make batches that outline them. -/
theorem exists_mapM_ofGroup (count : TokenCounter) : ∀ {groups : List (List Line)},
    [] ∉ groups → (∀ group ∈ groups, ∀ line ∈ group, Readable line) →
      (∀ group ∈ groups, group.IsChain Follows) →
      ∃ batches, (groups.map (List.map (·.written))).mapM (Batch.ofGroup count) = .ok batches ∧
        batches.map (·.outline) = groups.map outline
  | [], _, _, _ => ⟨[], rfl, rfl⟩
  | group :: groups, hne, hread, hchain => by
    rw [List.mem_cons, not_or] at hne
    obtain ⟨batch, hbatch, houtline⟩ := exists_ofGroup count (Ne.symm hne.1)
      (hread group List.mem_cons_self) (hchain group List.mem_cons_self)
    obtain ⟨batches, hbatches, houtlines⟩ := exists_mapM_ofGroup count hne.2
      (fun other ho => hread other (List.mem_cons_of_mem group ho))
      (fun other ho => hchain other (List.mem_cons_of_mem group ho))
    refine ⟨batch :: batches, ?_, ?_⟩
    · rw [List.map_cons, List.mapM_cons, hbatch, hbatches]
      rfl
    · rw [List.map_cons, List.map_cons, houtline, houtlines]

/-- **Packing written lines never fails**: each batch outlines a group, and the groups joined are
the lines. -/
theorem exists_create_map_outline (count : TokenCounter) {budget : Int} (hbudget : 1 ≤ budget)
    {lines : List Line} (hread : ∀ line ∈ lines, Readable line) (hchain : lines.IsChain Follows) :
    ∃ (batches : List Batch) (groups : List (List Line)),
      Batch.create count budget (lines.map (·.written)) = .ok batches ∧
      batches.map (·.outline) = groups.map outline ∧ groups.flatten = lines ∧ [] ∉ groups := by
  let cost (line : Line) : Nat := Batching.lineCost count line.written
  have hgroups : Batching.packLines count budget.toNat (lines.map (·.written))
      = (Batching.pack cost budget.toNat [] 0 lines).map (List.map (·.written)) :=
    Batching.pack_map (Batching.lineCost count) budget.toNat Line.written [] 0 lines
  have hflatten := Batching.flatten_pack cost budget.toNat [] 0 lines
  have hne := Batching.nil_not_mem_pack cost budget.toNat [] 0 lines
  generalize Batching.pack cost budget.toNat [] 0 lines = groups at *
  rw [List.nil_append] at hflatten
  subst hflatten
  obtain ⟨batches, hbatches, houtlines⟩ := exists_mapM_ofGroup count hne
    (fun group hgroup line hline => hread line (List.mem_flatten_of_mem hgroup hline))
    ((List.isChain_flatten hne).mp hchain).1
  refine ⟨batches, groups, ?_, houtlines, rfl, hne⟩
  unfold Batch.create Batch.split
  rw [if_neg (by omega), hgroups]
  exact hbatches

/-! ## Batches that outline groups -/

section Outline

variable {batches : List Batch} {groups : List (List Line)}

/-- The first batch starts where the groups start. -/
theorem head?_start (h : batches.map (·.outline) = groups.map outline) (hne : [] ∉ groups) :
    batches.head?.map (·.start) = groups.flatten.head?.map (·.number) := by
  cases groups with
  | nil =>
    rw [List.map_nil, List.map_eq_nil_iff] at h
    rw [h]
    rfl
  | cons group groups =>
    rw [List.mem_cons, not_or] at hne
    obtain ⟨batch, rest, rfl, hbatch, -⟩ := List.map_eq_cons_iff.mp h
    rw [List.flatten_cons, List.head?_append_of_ne_nil _ (Ne.symm hne.1)]
    exact congrArg Prod.fst hbatch

/-- The last batch ends where the groups end. -/
theorem getLast?_finish (h : batches.map (·.outline) = groups.map outline) (hne : [] ∉ groups) :
    batches.getLast?.map (·.finish) = groups.flatten.getLast?.map (·.number) := by
  rcases List.eq_nil_or_concat groups with rfl | ⟨front, group, hconcat⟩
  · rw [List.map_nil, List.map_eq_nil_iff] at h
    rw [h]
    rfl
  rw [List.concat_eq_append] at hconcat
  subst hconcat
  rw [List.mem_append, List.mem_singleton, not_or] at hne
  rw [List.map_append, List.map_singleton] at h
  obtain ⟨before, after, rfl, -, hafter⟩ := List.map_eq_append_iff.mp h
  obtain ⟨batch, rest, rfl, hbatch, hrest⟩ := List.map_eq_cons_iff.mp hafter
  rw [List.map_eq_nil_iff.mp hrest, List.flatten_append, List.flatten_singleton,
    List.getLast?_append_of_ne_nil _ (Ne.symm hne.2), List.getLast?_concat]
  exact congrArg (·.2.1) hbatch

/-- Groups of consecutive lines make batches each of which starts behind the one before. -/
theorem isChain_of_outline (h : batches.map (·.outline) = groups.map outline) (hne : [] ∉ groups)
    (hchain : groups.flatten.IsChain Follows) :
    batches.IsChain fun a b => b.start = a.finish + 1 := by
  let meets (a b : Option Int × Option Int × String) : Prop :=
    ∀ x ∈ a.2.1, ∀ y ∈ b.1, y = x + 1
  have hgroups : (groups.map outline).IsChain meets := by
    rw [List.isChain_map]
    refine ((List.isChain_flatten hne).mp hchain).2.imp fun a b hab x hx y hy => ?_
    obtain ⟨line, hline, rfl⟩ := Option.map_eq_some_iff.mp hx
    obtain ⟨next, hnext, rfl⟩ := Option.map_eq_some_iff.mp hy
    exact hab line hline next hnext
  rw [← h, List.isChain_map] at hgroups
  exact hgroups.imp fun a b hab => hab a.finish rfl b.start rfl

/-- The lines of a batch are the written lines of its group. -/
theorem lines_content {batch : Batch} (hbatch : batch ∈ batches)
    (h : batches.map (·.outline) = groups.map outline) (hne : [] ∉ groups)
    (hlf : ∀ line ∈ groups.flatten, '\n' ∉ line.written.toList) :
    ∃ group ∈ groups, batch.outline = outline group ∧
      Text.lines batch.content = group.map (·.written) := by
  have hmem : batch.outline ∈ groups.map outline := h ▸ List.mem_map_of_mem hbatch
  obtain ⟨group, hgroup, houtline⟩ := List.mem_map.mp hmem
  have hgroupNe : group.map (·.written) ≠ [] := fun he =>
    hne (List.map_eq_nil_iff.mp he ▸ hgroup)
  refine ⟨group, hgroup, houtline.symm, ?_⟩
  have hcontent : batch.content = Text.unlines (group.map (·.written)) :=
    (congrArg (·.2.2) houtline).symm
  rw [hcontent]
  refine Text.lines_unlines hgroupNe fun written hwritten => ?_
  obtain ⟨line, hline, rfl⟩ := List.mem_map.mp hwritten
  exact hlf line (List.mem_flatten_of_mem hgroup hline)

/-- A batch that outlines consecutive lines has as many lines as its range, numbered from its
start on. -/
theorem number_of_outline {batch : Batch} {group : List Line}
    (h : batch.outline = outline group) (hchain : group.IsChain Follows) :
    (group.length : Int) = batch.finish - batch.start + 1 ∧
      ∀ (k : Nat) (line : Line), group[k]? = some line → line.number = batch.start + k := by
  have hhead : some batch.start = group.head?.map (·.number) := congrArg (·.1) h
  have hlast : some batch.finish = group.getLast?.map (·.number) := congrArg (·.2.1) h
  cases group with
  | nil => exact absurd hhead (Option.some_ne_none _)
  | cons first lines =>
    have hstart : batch.start = first.number := Option.some.inj hhead
    obtain ⟨last, hlastEq, hfinish⟩ := Option.map_eq_some_iff.mp hlast.symm
    have hnumber := number_of_getLast? hchain hlastEq
    refine ⟨?_, fun k line hline => hstart ▸ number_of_isChain hchain hline⟩
    rw [List.length_cons]
    omega

theorem unlines_content (h : batches.map (·.outline) = groups.map outline) (hne : [] ∉ groups) :
    Text.unlines (batches.map (·.content)) = Text.unlines (groups.flatten.map (·.written)) := by
  have hcontents : batches.map (·.content)
      = (groups.map (List.map (·.written))).map Text.unlines := by
    have := congrArg (List.map (·.2.2)) h
    rw [List.map_map, List.map_map] at this
    rw [List.map_map]
    exact this
  rw [hcontents, Text.unlines_map_unlines, List.map_flatten]
  intro row hrow
  obtain ⟨group, hgroup, rfl⟩ := List.mem_map.mp hrow
  exact fun he => hne (List.map_eq_nil_iff.mp he ▸ hgroup)

end Outline

/-! ## Nothing is lost, repeated or renumbered -/

/-- **Batches cover the chosen lines.** For every text, source map, bounds, positive budget and
counter, as long as the chosen numbers can be read back: batches are made; the first starts and
the last ends where the clamped range does; each starts behind the one before; the lines of a
batch are the written lines of the listing with the numbers of its range; and the contents joined
are the chosen lines as written. The written lines are what rendering gives, where it gives any. -/
theorem create_chosenLines (code : String) (map : Option SourceMap.Mapping) (options : Options)
    {budget : Int} (count : TokenCounter) (hbudget : 1 ≤ budget)
    (hdigits : ∀ line ∈ chosenLines options (listing code map),
      (toString line.number).length ≤ Number.maxDigits) :
    let all := listing code map
    let range := clampRange (options.start.getD 1) (options.finish.getD all.length) all.length
    let chosen := chosenLines options all
    (∀ texts, chosen.mapM (·.render) = .ok texts → texts = chosen.map (·.written)) ∧
    ∃ batches, Batch.create count budget (chosen.map (·.written)) = .ok batches ∧
      chosen = (all.take range.2.toNat).drop (range.1 - 1).toNat ∧
      batches.head?.map (·.start) = some range.1 ∧
      batches.getLast?.map (·.finish) = some range.2 ∧
      (batches.IsChain fun a b => b.start = a.finish + 1) ∧
      (∀ batch ∈ batches,
        batch.content ≠ "" ∧
        ((Text.lines batch.content).length : Int) = batch.finish - batch.start + 1 ∧
        ∀ (k : Nat) (text : String), (Text.lines batch.content)[k]? = some text →
          ∃ line ∈ all, line.number = batch.start + k ∧ text = line.written) ∧
      Text.unlines (batches.map (·.content)) = Text.unlines (chosen.map (·.written)) := by
  intro all range chosen
  have hchosen : chosen = select all (options.start.getD 1) (options.finish.getD all.length) :=
    chosenLines_eq_select options all
  have hall : ∀ line ∈ chosen, line ∈ all := fun line hline =>
    mem_listing_of_mem_select code map _ _ (hchosen ▸ hline)
  have hread : ∀ line ∈ chosen, Readable line := fun line hline =>
    ⟨number_nonneg_of_mem_listing (hall line hline), hdigits line hline⟩
  have hchain : chosen.IsChain Follows := hchosen ▸ isChain_select code map _ _
  obtain ⟨batches, groups, hcreate, houtline, hflatten, hne⟩ :=
    exists_create_map_outline count hbudget hread hchain
  refine ⟨fun texts htexts => (mapM_render_eq_ok_iff.mp htexts).2, batches, hcreate,
    hchosen.trans (select_eq all _ _), ?_, ?_, ?_, ?_, ?_⟩
  · rw [head?_start houtline hne, hflatten, hchosen]
    exact head?_select code map _ _
  · rw [getLast?_finish houtline hne, hflatten, hchosen]
    exact getLast?_select code map _ _
  · exact isChain_of_outline houtline hne (hflatten ▸ hchain)
  · intro batch hbatch
    have hlf : ∀ line ∈ groups.flatten, '\n' ∉ line.written.toList := fun line hline =>
      lf_not_mem_written (lf_not_mem_of_mem_listing (hall line (hflatten ▸ hline)))
    obtain ⟨group, hgroup, hout, hlines⟩ := lines_content hbatch houtline hne hlf
    obtain ⟨hcount, hnumber⟩ := number_of_outline hout
      (((List.isChain_flatten hne).mp (hflatten ▸ hchain)).1 group hgroup)
    have hcontent : batch.content ≠ "" := by
      intro hempty
      rw [hempty, Text.lines_empty] at hlines
      obtain ⟨line, -, hline⟩ := List.mem_map.mp (hlines ▸ List.mem_singleton.mpr rfl)
      exact written_ne_empty line hline
    rw [hlines, List.length_map, hcount]
    refine ⟨hcontent, rfl, fun k text htext => ?_⟩
    rw [List.getElem?_map] at htext
    obtain ⟨line, hline, rfl⟩ := Option.map_eq_some_iff.mp htext
    have hmem : line ∈ groups.flatten :=
      List.mem_flatten_of_mem hgroup (List.mem_of_getElem? hline)
    exact ⟨line, hall line (hflatten ▸ hmem), hnumber k line hline, rfl⟩
  · rw [unlines_content houtline hne, hflatten]

/-- Three lines under a budget that the second is over alone. -/
theorem create_chosenLines_of_three :
    let chosen := chosenLines { start := some 2 } (listing "a\nfoo(bar);\n\nb" none)
    1 ≤ (25 : Int) ∧
      (∀ line ∈ chosen, (toString line.number).length ≤ Number.maxDigits) ∧
      ∃ (texts : List String) (batches : List Batch), chosen.mapM (·.render) = .ok texts ∧
        Batch.create String.length 25 texts = .ok batches ∧
        batches.head?.map (·.start) = some 2 ∧ batches.getLast?.map (·.finish) = some 4 := by
  intro chosen
  have hdigits : ∀ line ∈ chosen, (toString line.number).length ≤ Number.maxDigits := by
    decide +kernel
  have hrender : (chosen.mapM Line.render).isOk = true := by decide +kernel
  obtain ⟨hwritten, batches, hcreate, -, hhead, hlast, -⟩ :=
    create_chosenLines "a\nfoo(bar);\n\nb" none { start := some 2 } String.length
      (by decide : (1 : Int) ≤ 25) hdigits
  cases htexts : chosen.mapM (·.render) with
  | error fault =>
    rw [htexts] at hrender
    cases hrender
  | ok texts =>
    obtain rfl := hwritten texts htexts
    exact ⟨by decide, hdigits, _, batches, rfl, hcreate, hhead, hlast⟩

end VmScan
