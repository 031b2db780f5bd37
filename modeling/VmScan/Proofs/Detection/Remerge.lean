import Mathlib.Logic.Basic
import VmScan.Proofs.Detection.StandIn

/-!
# Merging in another order, and merging again

Before the regions are settled they are put in the order of their first lines, so the order in which
the batches report them is seen only by regions with one first line. All of those meet the same
accepted region, or follow it as the first of them, and the surest of them is what they leave: that
is the same in any order, as long as no two of them are equally sure.

* `ToldApart` — two regions that differ in their first lines or in how sure they are.

Results:
* `settle_comm`: two regions with one first line can be settled in either order.
* `foldl_settle_perm`: so can a whole row of regions, as long as the first lines ascend.
* `merge_regions_of_perm`: the merged regions do not depend on how the regions are spread over the
  results, nor on their order.
* `deduplicate_of_apart`: regions that are apart already stay as they are.
* `merge_merge`: merging a merged result changes nothing.
-/

namespace VmScan.Detection

/-! ## The surer of two regions -/

theorem surer_eq_or (kept region : Region) :
    kept.surer region = kept ∨ kept.surer region = region :=
  (ite_eq_or_eq _ region kept).symm

section Surer

variable {a b : Region} (hrank : a.confidence.rank ≠ b.confidence.rank)
include hrank

theorem surer_comm : a.surer b = b.surer a := by
  unfold Region.surer
  rcases Nat.lt_or_gt_of_ne hrank with hlt | hlt
  · rw [if_pos hlt, if_neg (Nat.lt_asymm hlt)]
  · rw [if_neg (Nat.lt_asymm hlt), if_pos hlt]

theorem surer_right_comm (kept : Region) : (kept.surer a).surer b = (kept.surer b).surer a := by
  unfold Region.surer
  grind

end Surer

/-- What the first of two regions with one first line leaves where the last accepted one reaches
that line meets the second. -/
theorem surer_overlaps {last first second : Region} (hfirst : Ranged first)
    (hsecond : Ranged second) (heq : first.start = second.start)
    (hstart : last.start ≤ second.start) (hreach : second.start ≤ last.finish) :
    (last.surer first).overlaps second = true := by
  rcases surer_eq_or last first with hkept | htaken
  · rw [hkept]
    exact overlaps_of_reaches hsecond hstart hreach
  · rw [htaken]
    exact overlaps_of_reaches hsecond (Int.le_of_eq heq) (heq ▸ hfirst)

/-! ## Settling in another order -/

/-- **Two steps.** Two regions with one first line, one of which is surer, can be settled in either
order. Behind all accepted regions the surer of the two is added; where the last accepted one
reaches their line, the surest of the three takes its place. -/
theorem settle_comm {accepted : List Region} {a b : Region} (h : Apart accepted)
    (hle : ∀ kept ∈ accepted, kept.start ≤ a.start) (ha : Ranged a) (hb : Ranged b)
    (hstart : a.start = b.start) (hrank : a.confidence.rank ≠ b.confidence.rank) :
    b.settle (a.settle accepted) = a.settle (b.settle accepted) := by
  rcases h.behind_or_reached hle with hbehind | ⟨front, last, rfl, hfront, hlast, hreach⟩
  · have hab : a.overlaps b = true :=
      overlaps_of_reaches hb (Int.le_of_eq hstart) (hstart ▸ ha)
    have hba : b.overlaps a = true := (overlaps_comm b a).trans hab
    have hbehindb : ∀ kept ∈ accepted, kept.finish < b.start := hstart ▸ hbehind
    rw [settle_of_behind hbehind, settle_of_behind hbehindb, settle_of_meets hbehindb hab,
      settle_of_meets hbehind hba, surer_comm hrank]
  · have hfrontb : ∀ kept ∈ front, kept.finish < b.start := hstart ▸ hfront
    have hlastb : last.start ≤ b.start := hstart ▸ hlast
    have hreachb : b.start ≤ last.finish := hstart ▸ hreach
    rw [settle_of_meets hfront (overlaps_of_reaches ha hlast hreach),
      settle_of_meets hfrontb (overlaps_of_reaches hb hlastb hreachb),
      settle_of_meets hfrontb (surer_overlaps ha hb hstart hlastb hreachb),
      settle_of_meets hfront (surer_overlaps hb ha hstart.symm hlast hreach), surer_right_comm hrank]

/-- A region can be settled before those in front of it that have its first line. -/
theorem foldl_settle_middle {seen accepted : List Region} {region : Region} (rest : List Region)
    (hregion : Ranged region) (h : Settled seen accepted)
    (hseen : ∀ earlier ∈ seen, earlier.start ≤ region.start) :
    ∀ {row : List Region}, (∀ other ∈ row, Ranged other ∧ other.start = region.start ∧
        other.confidence.rank ≠ region.confidence.rank) →
      (row ++ region :: rest).foldl (fun accepted region => region.settle accepted) accepted
        = (row ++ rest).foldl (fun accepted region => region.settle accepted)
          (region.settle accepted)
  | [], _ => rfl
  | other :: row, hrow => by
    obtain ⟨hother, hstart, hrank⟩ := hrow other List.mem_cons_self
    have hstep := h.settle hother (hstart.symm ▸ hseen)
    have hseen' : ∀ earlier ∈ seen ++ [other], earlier.start ≤ region.start :=
      List.forall_mem_append.mpr ⟨hseen, List.forall_mem_singleton.mpr (Int.le_of_eq hstart)⟩
    have hle : ∀ kept ∈ accepted, kept.start ≤ other.start := fun kept hk =>
      hstart.symm ▸ hseen kept (h.sublist.subset hk)
    rw [List.cons_append, List.cons_append, List.foldl_cons, List.foldl_cons,
      foldl_settle_middle rest hregion hstep hseen'
        fun next hnext => hrow next (List.mem_cons_of_mem other hnext),
      settle_comm h.apart hle hother hregion hstart hrank]

/-- The two regions differ in their first lines, or in how sure they are. -/
def ToldApart (a b : Region) : Prop :=
  ¬ (a.start = b.start ∧ a.confidence = b.confidence)

theorem ToldApart.symm {a b : Region} (h : ToldApart a b) : ToldApart b a :=
  fun ⟨hstart, hsame⟩ => h ⟨hstart.symm, hsame.symm⟩

/-- Confidences of one rank are the same. -/
theorem rank_inj {a b : Confidence} : a.rank = b.rank → a = b := by
  cases a <;> cases b <;> decide

/-- **A whole run.** Two rows of the same regions, both in the order of their first lines, are
settled to the same accepted regions if any two of them are told apart. The induction is on the
first row: its head stands in the second behind regions with its own first line only. -/
theorem foldl_settle_perm {seen accepted regions others : List Region} (h : Settled seen accepted)
    (hperm : regions.Perm others) (hranged : ∀ region ∈ regions, Ranged region)
    (hseen : ∀ earlier ∈ seen, ∀ region ∈ regions, earlier.start ≤ region.start)
    (hregions : regions.Pairwise fun a b => a.start ≤ b.start)
    (hothers : others.Pairwise fun a b => a.start ≤ b.start)
    (htold : regions.Pairwise ToldApart) :
    regions.foldl (fun accepted region => region.settle accepted) accepted
      = others.foldl (fun accepted region => region.settle accepted) accepted := by
  induction regions generalizing seen accepted others with
  | nil => rw [hperm.symm.eq_nil]
  | cons region regions ih =>
    obtain ⟨hregion, hranged⟩ := List.forall_mem_cons.mp hranged
    obtain ⟨hfirst, hregions⟩ := List.pairwise_cons.mp hregions
    obtain ⟨hother, htold⟩ := List.pairwise_cons.mp htold
    obtain ⟨row, rest, rfl⟩ := List.append_of_mem (hperm.mem_iff.mp List.mem_cons_self)
    -- both rows ascend, so what stands in front of the region in the second has its first line
    have hrest : regions.Perm (row ++ rest) := (hperm.trans List.perm_middle).cons_inv
    have hrow : ∀ other ∈ row, Ranged other ∧ other.start = region.start ∧
        other.confidence.rank ≠ region.confidence.rank := fun other ho => by
      have hmem : other ∈ regions := hrest.mem_iff.mpr (List.mem_append_left rest ho)
      have hle := (List.pairwise_append.mp hothers).2.2 other ho region List.mem_cons_self
      have hstart := Int.le_antisymm hle (hfirst other hmem)
      exact ⟨hranged other hmem, hstart, fun hrank =>
        hother other hmem ⟨hstart.symm, rank_inj hrank.symm⟩⟩
    have hearlier : ∀ earlier ∈ seen, earlier.start ≤ region.start := fun earlier he =>
      hseen earlier he region List.mem_cons_self
    rw [foldl_settle_middle rest hregion h hearlier hrow, List.foldl_cons]
    have hseen' : ∀ earlier ∈ seen ++ [region], ∀ other ∈ regions, earlier.start ≤ other.start :=
      List.forall_mem_append.mpr ⟨fun earlier he => (List.forall_mem_cons.mp (hseen earlier he)).2,
        List.forall_mem_singleton.mpr hfirst⟩
    exact ih (h.settle hregion hearlier) hrest hranged hseen' hregions
      (hothers.sublist ((List.sublist_cons_self region rest).append_left row)) htold

/-- **The merged regions do not depend on the order of the reports.** For proper regions of which no
two share both their first line and their confidence, deduplication returns the same for every order
of them, and so does merging, however they are spread over results. -/
theorem merge_regions_of_perm (regions : List Region)
    (hranged : ∀ region ∈ regions, region.start ≤ region.finish)
    (htold : regions.Pairwise fun a b => ¬ (a.start = b.start ∧ a.confidence = b.confidence)) :
    (∀ others : List Region, others.Perm regions → deduplicate others = deduplicate regions) ∧
      ∀ results : List Result, (results.flatMap (·.regions)).Perm regions →
        (merge results).regions = deduplicate regions := by
  have hdeduplicate : ∀ others : List Region, others.Perm regions →
      deduplicate others = deduplicate regions := fun others hperm => by
    have hsorted : (sortByStart regions).Perm regions := List.mergeSort_perm regions _
    have hothers : (sortByStart regions).Perm (sortByStart others) :=
      hsorted.trans (hperm.symm.trans (List.mergeSort_perm others _).symm)
    have hsortedTold : (sortByStart regions).Pairwise ToldApart :=
      hsorted.symm.pairwise htold fun h => h.symm
    have hnone : ∀ earlier ∈ ([] : List Region), ∀ region ∈ sortByStart regions,
        earlier.start ≤ region.start := fun earlier he => absurd he List.not_mem_nil
    exact (foldl_settle_perm settled_nil hothers
      (fun region hr => hranged region (hsorted.mem_iff.mp hr)) hnone
      (ascending_sortByStart regions) (ascending_sortByStart others) hsortedTold).symm
  refine ⟨hdeduplicate, fun results hperm => ?_⟩
  rw [merge_regions]
  exact hdeduplicate _ hperm

/-- Of three claims with shared lines, two of which start on one line, the surest that starts first
is returned, also where the results report it last. -/
theorem merge_regions_of_perm_sharedStart :
    let regions := [claim 1 9 .high, claim 1 4 .medium, claim 8 20 .high]
    let results : List Result :=
      [{ summary := .plain "", regions := [claim 8 20 .high, claim 1 4 .medium] },
        { summary := .plain "", regions := [claim 1 9 .high] }]
    (∀ region ∈ regions, region.start ≤ region.finish) ∧
      regions.Pairwise (fun a b => ¬ (a.start = b.start ∧ a.confidence = b.confidence)) ∧
      (results.flatMap (·.regions)).Perm regions ∧
      (merge results).regions = [claim 1 9 .high] := by
  intro regions results
  have hranged : ∀ region ∈ regions, region.start ≤ region.finish := by decide
  have htold : regions.Pairwise
      fun a b => ¬ (a.start = b.start ∧ a.confidence = b.confidence) := by decide
  have hperm : (results.flatMap (·.regions)).Perm regions := by decide
  have hsorted : sortByStart regions = regions := List.mergeSort_of_pairwise (by decide)
  refine ⟨hranged, htold, hperm, ?_⟩
  rw [(merge_regions_of_perm regions hranged htold).2 results hperm, deduplicate, hsorted]
  decide

/-! ## Merging again -/

/-- Proper regions that are apart are settled one behind the other. -/
theorem foldl_settle_of_apart {regions : List Region} (accepted : List Region)
    (h : Apart (accepted ++ regions)) :
    regions.foldl (fun accepted region => region.settle accepted) accepted
      = accepted ++ regions := by
  induction regions generalizing accepted with
  | nil => exact (List.append_nil accepted).symm
  | cons region regions ih =>
    have hbehind : ∀ kept ∈ accepted, kept.finish < region.start := fun kept hk =>
      (List.pairwise_append.mp h).2.2 kept hk region List.mem_cons_self
    rw [List.append_cons] at h ⊢
    rw [List.foldl_cons, settle_of_behind hbehind, ih _ h]

/-- **Regions that are apart stay as they are.** -/
theorem deduplicate_of_apart {regions : List Region} (hranged : ∀ region ∈ regions, Ranged region)
    (h : Apart regions) : deduplicate regions = regions := by
  have hascending : regions.Pairwise fun a b => decide (a.start ≤ b.start) = true :=
    h.imp_of_mem fun {a b} ha _ hab =>
      decide_eq_true (Int.le_of_lt (Int.lt_of_le_of_lt (hranged a ha) hab))
  have hsorted : sortByStart regions = regions := List.mergeSort_of_pairwise hascending
  rw [deduplicate, hsorted, foldl_settle_of_apart [] h, List.nil_append]

/-- **Merging again changes nothing.** For results with proper regions, the merged result merged
alone is the same result, with its summary, its bytecode and its regions. -/
theorem merge_merge (results : List Result)
    (h : ∀ result ∈ results, ∀ region ∈ result.regions, region.start ≤ region.finish) :
    merge [merge results] = merge results := by
  have hall : ∀ region ∈ results.flatMap (·.regions), Ranged region := fun region hr => by
    obtain ⟨result, hresult, hregion⟩ := List.mem_flatMap.mp hr
    exact h result hresult region hregion
  have hsettled := settled_deduplicate hall
  rw [← merge_regions] at hsettled
  have hranged : ∀ region ∈ (merge results).regions, Ranged region := fun region hr =>
    hall region (List.mem_mergeSort.mp (hsettled.sublist.subset hr))
  rw [merge, deduplicate_of_apart hranged hsettled.apart]

/-- Two batches with a shared claim: the merged description is not numbered a second time. -/
theorem merge_merge_twoBatches :
    let results : List Result :=
      [{ summary := .plain "loop", regions := [claim 8 9 .low, claim 1 4 .medium] },
        { summary := .plain "table", regions := [claim 3 7 .ultraHigh] }]
    (∀ result ∈ results, ∀ region ∈ result.regions, region.start ≤ region.finish) ∧
      merge [merge results] = merge results ∧
      (merge [merge results]).summary.text = "[Batch 1] loop\n[Batch 2] table" := by
  intro results
  have h : ∀ result ∈ results, ∀ region ∈ result.regions, region.start ≤ region.finish := by
    decide
  have hmerged := merge_merge results h
  exact ⟨h, hmerged, by rw [hmerged]; rfl⟩

end VmScan.Detection
