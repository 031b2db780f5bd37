import VmScan.Proofs.Detection.Remerge

/-!
# Only the last accepted region is met

A region is compared with the accepted ones from the front until it meets one. The accepted regions
are apart and start no later than the region, so all but the last of them end before it starts: the
comparisons in front of the last never find anything. One comparison per region is enough, and the
accepted regions can be kept with the last of them in front.

* `Region.settleLast` — the accepted regions, the last in front, once a region has met the last.

Results:
* `Settled.settle_eq`: one step is `settleLast`, the accepted regions turned round.
* `Settled.foldl_settle_eq`: so is a whole run.
* `deduplicate_eq_settleLast`: deduplication is one pass over the sorted regions.
-/

namespace VmScan.Detection

/-- The accepted regions, the last in front, once `region` has met the last of them: it is added if
they share no line, takes the place of that one if it is surer, and is dropped else. -/
def Region.settleLast (region : Region) : List Region → List Region
  | [] => [region]
  | last :: earlier =>
    if !last.overlaps region then region :: last :: earlier
    else if last.confidence.rank < region.confidence.rank then region :: earlier
    else last :: earlier

section Step

variable {seen accepted : List Region} {region : Region} (h : Settled seen accepted)
  (hseen : ∀ earlier ∈ seen, earlier.start ≤ region.start)
include h hseen

/-- **One step.** Settling a region is settling it with the last accepted one, the accepted regions
turned round. -/
theorem Settled.settle_eq (hregion : Ranged region) :
    region.settle accepted = (region.settleLast accepted.reverse).reverse := by
  rcases h.apart.behind_or_reached (h.start_le hseen) with
    hbehind | ⟨front, last, rfl, hfront, hstart, hreach⟩
  · -- behind all of them, so behind the last too
    rw [settle_of_behind hbehind]
    rcases hrow : accepted.reverse with - | ⟨last, earlier⟩
    · rw [List.reverse_eq_nil_iff.mp hrow]
      rfl
    · have hmiss : last.overlaps region = false :=
        overlaps_eq_false_iff.mpr (Or.inr (hbehind last (List.mem_reverse.mp
          (hrow ▸ List.mem_cons_self))))
      rw [Region.settleLast, hmiss, Bool.not_false, if_pos rfl, List.reverse_cons, ← hrow,
        List.reverse_reverse]
  · have hmeet : last.overlaps region = true := overlaps_of_reaches hregion hstart hreach
    rw [settle_of_meets hfront hmeet, Region.surer, List.reverse_append, List.reverse_singleton,
      List.singleton_append, Region.settleLast, hmeet, Bool.not_true, if_neg Bool.false_ne_true]
    split <;> rw [List.reverse_cons, List.reverse_reverse]

end Step

/-- **A whole run.** Settling proper regions in the order of their first lines is settling each with
the last accepted one. The accepted regions stay as `Settled` tells, so every step is one of those
above. -/
theorem Settled.foldl_settle_eq {seen accepted : List Region} (h : Settled seen accepted) :
    ∀ {regions : List Region}, (∀ region ∈ regions, Ranged region) →
      (seen ++ regions).Pairwise (fun a b => a.start ≤ b.start) →
      regions.foldl (fun accepted region => region.settle accepted) accepted
        = (regions.foldl (fun accepted region => region.settleLast accepted)
            accepted.reverse).reverse
  | [], _, _ => (List.reverse_reverse accepted).symm
  | region :: regions, hranged, hsorted => by
    obtain ⟨hregion, hranged⟩ := List.forall_mem_cons.mp hranged
    have hseen : ∀ earlier ∈ seen, earlier.start ≤ region.start := fun earlier he =>
      (List.pairwise_append.mp hsorted).2.2 earlier he region List.mem_cons_self
    rw [List.append_cons] at hsorted
    rw [List.foldl_cons, List.foldl_cons,
      (h.settle hregion hseen).foldl_settle_eq hranged hsorted, h.settle_eq hseen hregion,
      List.reverse_reverse]

/-- **Deduplication is one pass over the sorted regions.** For proper regions, an accepted region
that the next one meets is the last of the accepted ones, at every step; so the result is that of
the fold over the stably sorted regions which compares each with the last accepted one only. -/
theorem deduplicate_eq_settleLast (regions : List Region)
    (h : ∀ region ∈ regions, region.start ≤ region.finish) :
    StablySorted regions (sortByStart regions) ∧
      (∀ before region after, sortByStart regions = before ++ region :: after →
        ∀ front kept behind,
          before.foldl (fun accepted region => region.settle accepted) []
              = front ++ kept :: behind →
            kept.overlaps region = true → behind = []) ∧
      deduplicate regions
        = ((sortByStart regions).foldl
            (fun accepted region => region.settleLast accepted) []).reverse := by
  have hranged : ∀ region ∈ sortByStart regions, Ranged region := fun region hr =>
    h region (List.mem_mergeSort.mp hr)
  have hsorted := ascending_sortByStart regions
  refine ⟨stablySorted_sortByStart regions, fun before region after hrow front kept behind
    haccepted hmeet => ?_, settled_nil.foldl_settle_eq hranged hsorted⟩
  rw [hrow] at hranged hsorted
  obtain ⟨hbefore, -, hseen⟩ := List.pairwise_append.mp hsorted
  have hsettled := settled_nil.foldl
    (fun other ho => hranged other (List.mem_append_left _ ho)) hbefore
  rw [List.nil_append] at hsettled
  exact hsettled.eq_nil_of_overlaps (fun earlier he => hseen earlier he region List.mem_cons_self)
    haccepted hmeet

/-- Of four claims one takes the place of the last, one is dropped and one is added. -/
theorem deduplicate_eq_settleLast_of_four :
    let regions := [claim 8 20 .low, claim 3 6 .medium, claim 1 5 .low, claim 6 7 .medium]
    (∀ region ∈ regions, region.start ≤ region.finish) ∧
      deduplicate regions = [claim 3 6 .medium, claim 8 20 .low] := by
  intro regions
  have hranged : ∀ region ∈ regions, region.start ≤ region.finish := by decide
  obtain ⟨hstable, -, hfold⟩ := deduplicate_eq_settleLast regions hranged
  have hsorted : sortByStart regions
      = [claim 1 5 .low, claim 3 6 .medium, claim 6 7 .medium, claim 8 20 .low] := by
    simp [regions, claim, sortByStart, List.mergeSort, List.MergeSort.Internal.splitInTwo]
  rw [hfold, hsorted]
  exact ⟨hranged, by decide⟩

end VmScan.Detection
