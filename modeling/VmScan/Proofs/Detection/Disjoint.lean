import VmScan.Detection.Merge

/-!
# Merged regions are in order and share no line

`deduplicate` (`deduplicate_regions`) settles the regions one after another, sorted by their first
lines. A settled region may take the place of an accepted one, and it is compared with no other
then, so the order has to come from an invariant.

* `Ranged` — a region that does not end before it starts.
* `Apart` — a row of regions, each of which ends before any later one starts.
* `Region.surer` — what stays of an accepted region and one that meets it.
* `StablySorted` — a row of regions in the order of their first lines, in which regions with one
  first line stand as they stood before.

Results:
* `settle_append`: regions that end before a region starts take no part when it is settled.
* `settle_of_behind`, `settle_of_meets`: what a region does behind the accepted ones, and where it
  meets the last.
* `Settled.settle`: one step keeps the accepted regions apart and among the regions seen so far.
* `settled_deduplicate`: so does the whole run.
* `Settled.eq_nil_of_overlaps`: no accepted region stands behind one that is met.
* `stablySorted_sortByStart`: sorting by first lines is stable.
* `merge_regions_apart`: the regions of a merged result ascend, share no line, and are found in
  this order in the stable sort of all regions.
-/

namespace VmScan.Detection

/-! ## Regions and lines -/

/-- The region does not end before it starts. -/
def Ranged (region : Region) : Prop :=
  region.start ≤ region.finish

/-- Each region ends before any later one starts. -/
def Apart (regions : List Region) : Prop :=
  regions.Pairwise fun a b => a.finish < b.start

theorem overlaps_iff {a b : Region} :
    a.overlaps b = true ↔ a.start ≤ b.finish ∧ b.start ≤ a.finish := by
  simp only [Region.overlaps, Bool.and_eq_true, decide_eq_true_eq]

theorem overlaps_eq_false_iff {a b : Region} :
    a.overlaps b = false ↔ b.finish < a.start ∨ a.finish < b.start := by
  rw [Bool.eq_false_iff, ne_eq, overlaps_iff]
  omega

/-- Sharing a line goes both ways. -/
theorem overlaps_comm (a b : Region) : a.overlaps b = b.overlaps a := by
  rw [Bool.eq_iff_iff, overlaps_iff, overlaps_iff, and_comm]

/-- Of two proper regions the first of which starts no later, those that share no line are apart. -/
theorem finish_lt_start {a b : Region} (hb : Ranged b) (hab : a.start ≤ b.start)
    (h : a.overlaps b = false) : a.finish < b.start := by
  unfold Ranged at hb
  rcases overlaps_eq_false_iff.mp h with h | h
  · omega
  · exact h

/-- A region meets an accepted one that starts no later and reaches its first line. -/
theorem overlaps_of_reaches {kept region : Region} (hregion : Ranged region)
    (hstart : kept.start ≤ region.start) (hreach : region.start ≤ kept.finish) :
    kept.overlaps region = true :=
  overlaps_iff.mpr ⟨Int.le_trans hstart hregion, hreach⟩

/-! ## Settling one region -/

theorem settle_nil (region : Region) : region.settle [] = [region] := rfl

/-- Regions that end before a region starts take no part when it is settled. -/
theorem settle_append {region : Region} {front : List Region} (rest : List Region)
    (h : ∀ kept ∈ front, kept.finish < region.start) :
    region.settle (front ++ rest) = front ++ region.settle rest := by
  induction front with
  | nil => rfl
  | cons kept front ih =>
    have hkept : kept.overlaps region = false :=
      overlaps_eq_false_iff.mpr (Or.inr (h kept List.mem_cons_self))
    rw [List.cons_append, Region.settle, hkept, if_neg Bool.false_ne_true,
      ih fun other ho => h other (List.mem_cons_of_mem kept ho), List.cons_append]

/-- A region behind all accepted ones is added to them. -/
theorem settle_of_behind {region : Region} {accepted : List Region}
    (h : ∀ kept ∈ accepted, kept.finish < region.start) :
    region.settle accepted = accepted ++ [region] := by
  have hsettle := settle_append [] h
  rwa [List.append_nil, settle_nil] at hsettle

/-- What stays of an accepted region and one that meets it. -/
def Region.surer (kept region : Region) : Region :=
  if kept.confidence.rank < region.confidence.rank then region else kept

/-- A region that meets the last accepted one leaves the surer of the two in its place. -/
theorem settle_of_meets {region last : Region} {front : List Region}
    (hfront : ∀ kept ∈ front, kept.finish < region.start)
    (hmeet : last.overlaps region = true) :
    region.settle (front ++ [last]) = front ++ [last.surer region] := by
  rw [settle_append [last] hfront, Region.settle, if_pos hmeet, Region.surer]

/-- The three outcomes for a region that meets the last accepted one: it is added behind it, takes
its place, or is dropped. -/
theorem settle_singleton (region last : Region) :
    (last.overlaps region = false ∧ region.settle [last] = [last, region]) ∨
      (last.overlaps region = true ∧ last.confidence.rank < region.confidence.rank ∧
        region.settle [last] = [region]) ∨
      (last.overlaps region = true ∧ region.confidence.rank ≤ last.confidence.rank ∧
        region.settle [last] = [last]) := by
  unfold Region.settle
  cases h : last.overlaps region with
  | false => exact Or.inl ⟨rfl, rfl⟩
  | true =>
    by_cases hrank : last.confidence.rank < region.confidence.rank
    · exact Or.inr (Or.inl ⟨rfl, hrank, by rw [if_pos rfl, if_pos hrank]⟩)
    · exact Or.inr (Or.inr ⟨rfl, Nat.le_of_not_lt hrank, by rw [if_pos rfl, if_neg hrank]⟩)

/-! ## The accepted regions along a run -/

/-- What holds of the accepted regions once the regions `seen` have been settled. -/
structure Settled (seen accepted : List Region) : Prop where
  sublist : accepted.Sublist seen
  apart : Apart accepted

theorem settled_nil : Settled [] [] := ⟨List.Sublist.refl [], List.Pairwise.nil⟩

theorem apart_concat {front : List Region} {region : Region} (h : Apart front)
    (hfront : ∀ kept ∈ front, kept.finish < region.start) : Apart (front ++ [region]) := by
  refine List.pairwise_append.mpr ⟨h, List.pairwise_singleton _ region, fun kept hk other ho => ?_⟩
  rw [List.mem_singleton.mp ho]
  exact hfront kept hk

/-- In a row of proper regions that are apart, all but the last end before any region starts that
starts no earlier than the last. -/
theorem Apart.finish_lt_of_concat {front : List Region} {last region : Region}
    (h : Apart (front ++ [last])) (hle : last.start ≤ region.start) :
    ∀ kept ∈ front, kept.finish < region.start := fun kept hk => by
  have hlt : kept.finish < last.start :=
    (List.pairwise_append.mp h).2.2 kept hk last (List.mem_singleton.mpr rfl)
  omega

/-- A line behind all first lines of accepted regions is behind all of them, or only the last
reaches it. -/
theorem Apart.behind_or_reached {accepted : List Region} (h : Apart accepted) {region : Region}
    (hle : ∀ kept ∈ accepted, kept.start ≤ region.start) :
    (∀ kept ∈ accepted, kept.finish < region.start) ∨
      ∃ front last, accepted = front ++ [last] ∧
        (∀ kept ∈ front, kept.finish < region.start) ∧
        last.start ≤ region.start ∧ region.start ≤ last.finish := by
  rcases List.eq_nil_or_concat accepted with rfl | ⟨front, last, hlast⟩
  · exact Or.inl fun kept hk => absurd hk List.not_mem_nil
  rw [List.concat_eq_append] at hlast
  subst hlast
  have hstart : last.start ≤ region.start :=
    hle last (List.mem_append_right front (List.mem_singleton.mpr rfl))
  have hfront := h.finish_lt_of_concat hstart
  by_cases hreach : region.start ≤ last.finish
  · exact Or.inr ⟨front, last, rfl, hfront, hstart, hreach⟩
  · exact Or.inl (List.forall_mem_append.mpr
      ⟨hfront, List.forall_mem_singleton.mpr (Int.not_le.mp hreach)⟩)

/-- **One step.** Settling a proper region that starts no earlier than any region seen keeps the
accepted regions apart and among the regions seen. Only the last accepted region can be met: every
other one ends before the last starts, and so before the new one does. -/
theorem Settled.settle {seen accepted : List Region} {region : Region} (h : Settled seen accepted)
    (hregion : Ranged region) (hseen : ∀ earlier ∈ seen, earlier.start ≤ region.start) :
    Settled (seen ++ [region]) (region.settle accepted) := by
  obtain ⟨hsub, hapart⟩ := h
  rcases List.eq_nil_or_concat accepted with rfl | ⟨front, last, hlast⟩
  · rw [settle_nil]
    exact ⟨List.sublist_append_right seen [region], List.pairwise_singleton _ region⟩
  rw [List.concat_eq_append] at hlast
  subst hlast
  have hle : last.start ≤ region.start :=
    hseen last (hsub.subset (List.mem_append_right front (List.mem_singleton.mpr rfl)))
  have hfront := hapart.finish_lt_of_concat hle
  have hbefore : Apart front := (List.pairwise_append.mp hapart).1
  rw [settle_append [last] hfront]
  rcases settle_singleton region last with ⟨hmiss, he⟩ | ⟨-, -, he⟩ | ⟨-, -, he⟩
  · -- added behind the last
    rw [he, List.append_cons front last [region]]
    refine ⟨hsub.append_right [region], apart_concat hapart fun kept hk => ?_⟩
    rcases List.mem_append.mp hk with hk | hk
    · exact hfront kept hk
    · rw [List.mem_singleton.mp hk]
      exact finish_lt_start hregion hle hmiss
  · -- in place of the last
    rw [he]
    have hfrontSub : front.Sublist seen := (List.sublist_append_left front [last]).trans hsub
    exact ⟨hfrontSub.append_right [region], apart_concat hbefore hfront⟩
  · -- dropped
    rw [he]
    exact ⟨hsub.trans (List.sublist_append_left seen [region]), hapart⟩

/-- **A whole run.** Settling proper regions in the order of their first lines, from a state that
meets the invariant, ends in one that does. -/
theorem Settled.foldl {seen accepted : List Region} (h : Settled seen accepted) :
    ∀ {regions : List Region}, (∀ region ∈ regions, Ranged region) →
      (seen ++ regions).Pairwise (fun a b => a.start ≤ b.start) →
      Settled (seen ++ regions)
        (regions.foldl (fun accepted region => region.settle accepted) accepted)
  | [], _, _ => by rwa [List.append_nil]
  | region :: regions, hranged, hsorted => by
    have hseen : ∀ earlier ∈ seen, earlier.start ≤ region.start := fun earlier he =>
      (List.pairwise_append.mp hsorted).2.2 earlier he region List.mem_cons_self
    have hstep := h.settle (hranged region List.mem_cons_self) hseen
    rw [List.append_cons] at hsorted ⊢
    rw [List.foldl_cons]
    exact hstep.foldl (fun other ho => hranged other (List.mem_cons_of_mem region ho)) hsorted

section Last

variable {seen accepted : List Region} {region : Region} (h : Settled seen accepted)
  (hseen : ∀ earlier ∈ seen, earlier.start ≤ region.start)
include h hseen

/-- All accepted regions start no later than one that starts no earlier than all seen. -/
theorem Settled.start_le : ∀ kept ∈ accepted, kept.start ≤ region.start := fun kept hk =>
  hseen kept (h.sublist.subset hk)

/-- **A region can only meet the last accepted one.** -/
theorem Settled.eq_nil_of_overlaps {front behind : List Region} {kept : Region}
    (haccepted : accepted = front ++ kept :: behind) (hmeet : kept.overlaps region = true) :
    behind = [] := by
  rcases List.eq_nil_or_concat behind with hnil | ⟨others, last, hlast⟩
  · exact hnil
  rw [List.concat_eq_append] at hlast
  subst hlast
  have hle : last.start ≤ region.start := h.start_le hseen last (by simp [haccepted])
  have hparts : accepted = (front ++ kept :: others) ++ [last] := by simp [haccepted]
  have hends : kept.finish < region.start :=
    (hparts ▸ h.apart).finish_lt_of_concat hle kept
      (List.mem_append_right front List.mem_cons_self)
  exact absurd (overlaps_iff.mp hmeet).2 (Int.not_le.mpr hends)

end Last

/-! ## Sorting by first lines -/

/-- The regions in the order of their first lines; regions with one first line stand as they
stood before. -/
structure StablySorted (regions sorted : List Region) : Prop where
  perm : sorted.Perm regions
  ascending : sorted.Pairwise fun a b => a.start ≤ b.start
  stable : ∀ line, sorted.filter (·.start = line) = regions.filter (·.start = line)

theorem startLe_trans (a b c : Region) (hab : decide (a.start ≤ b.start) = true)
    (hbc : decide (b.start ≤ c.start) = true) : decide (a.start ≤ c.start) = true := by
  rw [decide_eq_true_eq] at hab hbc ⊢
  exact Int.le_trans hab hbc

theorem startLe_total (a b : Region) :
    (decide (a.start ≤ b.start) || decide (b.start ≤ a.start)) = true := by
  rw [Bool.or_eq_true, decide_eq_true_eq, decide_eq_true_eq]
  exact Int.le_total a.start b.start

theorem ascending_sortByStart (regions : List Region) :
    (sortByStart regions).Pairwise fun a b => a.start ≤ b.start :=
  (List.pairwise_mergeSort startLe_trans startLe_total regions).imp of_decide_eq_true

/-- Sorting by first lines is stable. -/
theorem stablySorted_sortByStart (regions : List Region) :
    StablySorted regions (sortByStart regions) := by
  have hperm : (sortByStart regions).Perm regions := List.mergeSort_perm regions _
  refine ⟨hperm, ascending_sortByStart regions, fun line => ?_⟩
  -- the regions with one first line are in order already, so the sort keeps them as they stand
  have hpair : (regions.filter (·.start = line)).Pairwise
      fun a b => decide (a.start ≤ b.start) = true := by
    refine List.pairwise_of_forall_mem_list fun a ha b hb => ?_
    rw [List.mem_filter, decide_eq_true_eq] at ha hb
    exact decide_eq_true (Int.le_of_eq (ha.2.trans hb.2.symm))
  have hsub : (regions.filter (·.start = line)).Sublist (sortByStart regions) :=
    List.sublist_mergeSort startLe_trans startLe_total hpair List.filter_sublist
  have hfilter := hsub.filter (·.start = line)
  rw [List.filter_filter] at hfilter
  simp only [Bool.and_self] at hfilter
  exact (hfilter.eq_of_length (hperm.filter _).length_eq.symm).symm

/-! ## The merged regions -/

/-- After deduplication, proper regions are apart and stand as in the stable sort. -/
theorem settled_deduplicate {regions : List Region} (h : ∀ region ∈ regions, Ranged region) :
    Settled (sortByStart regions) (deduplicate regions) := by
  have hranged : ∀ region ∈ sortByStart regions, Ranged region := fun region hr =>
    h region (List.mem_mergeSort.mp hr)
  exact settled_nil.foldl hranged (ascending_sortByStart regions)

/-- The regions of a merged result are those of all results, deduplicated. -/
theorem merge_regions (results : List Result) :
    (merge results).regions = deduplicate (results.flatMap (·.regions)) := by
  match results with
  | [] => simp only [merge, List.flatMap_nil, deduplicate, sortByStart, List.mergeSort_nil,
      List.foldl_nil]
  | [only] => simp only [merge, List.flatMap_cons, List.flatMap_nil, List.append_nil]
  | first :: second :: others => rfl

/-- **Merged regions are in order and share no line.** For results with proper regions, the
regions of the merged result ascend strictly by their first lines, each ends before any later one
starts, no two overlap, and they form a sublist of the stable sort of all regions. -/
theorem merge_regions_apart (results : List Result)
    (h : ∀ result ∈ results, ∀ region ∈ result.regions, region.start ≤ region.finish) :
    (merge results).regions.Pairwise (fun a b => a.start < b.start) ∧
      (merge results).regions.Pairwise (fun a b => a.finish < b.start) ∧
      (merge results).regions.Pairwise
        (fun a b => a.overlaps b = false ∧ b.overlaps a = false) ∧
      ∃ sorted, StablySorted (results.flatMap (·.regions)) sorted ∧
        (merge results).regions.Sublist sorted := by
  have hall : ∀ region ∈ results.flatMap (·.regions), Ranged region := fun region hr => by
    obtain ⟨result, hresult, hregion⟩ := List.mem_flatMap.mp hr
    exact h result hresult region hregion
  rw [merge_regions]
  have hsettled := settled_deduplicate hall
  have hsorted := stablySorted_sortByStart (results.flatMap (·.regions))
  have hranged : ∀ region ∈ deduplicate (results.flatMap (·.regions)), Ranged region :=
    fun region hr => hall region (hsorted.perm.mem_iff.mp (hsettled.sublist.subset hr))
  refine ⟨?_, hsettled.apart, ?_, _, hsorted, hsettled.sublist⟩
  · refine hsettled.apart.imp_of_mem fun {a b} ha _ hab => ?_
    exact Int.lt_of_le_of_lt (hranged a ha) hab
  · refine hsettled.apart.imp fun {a b} hab => ?_
    rw [overlaps_comm b a, and_self]
    exact overlaps_eq_false_iff.mpr (Or.inr hab)

/-- Of three claims the second takes the place of the first, and the third shares no line. -/
theorem merge_regions_apart_of_three :
    let region (start finish : Int) (confidence : Confidence) : Region :=
      { start, finish, kind := .switchDispatcher, confidence, description := "" }
    let results : List Result :=
      [{ summary := .plain "", regions := [region 8 9 .low, region 1 4 .medium] },
        { summary := .plain "", regions := [region 3 7 .ultraHigh] }]
    (∀ result ∈ results, ∀ region ∈ result.regions, region.start ≤ region.finish) ∧
      (merge results).regions = [region 3 7 .ultraHigh, region 8 9 .low] ∧
      (merge results).regions.Pairwise (fun a b => a.finish < b.start) := by
  intro region results
  have h : ∀ result ∈ results, ∀ region ∈ result.regions, region.start ≤ region.finish := by
    decide
  have hsorted : sortByStart [region 8 9 .low, region 1 4 .medium, region 3 7 .ultraHigh]
      = [region 1 4 .medium, region 3 7 .ultraHigh, region 8 9 .low] := by
    simp [region, sortByStart, List.mergeSort, List.MergeSort.Internal.splitInTwo]
  have hmerged : (merge results).regions = [region 3 7 .ultraHigh, region 8 9 .low] := by
    show deduplicate [region 8 9 .low, region 1 4 .medium, region 3 7 .ultraHigh] = _
    rw [deduplicate, hsorted]
    decide
  exact ⟨h, hmerged, (merge_regions_apart results h).2.1⟩

end VmScan.Detection
