import Mathlib.Data.List.Induction
import Mathlib.Tactic.SplitIfs
import VmScan.Proofs.Detection.Disjoint

/-!
# Every claim leaves a stand-in

A region that `deduplicate` (`deduplicate_regions`) does not return was dropped when it was settled,
or gave its place to a surer one later on. Either way another region stands in for it. That one may
give its place away again, and the next need not share a line with the first: an accepted region
hands on what it stands for, not where it is.

Both relations are about the loop of `deduplicate_regions`: `settled` are the regions that it has
passed so far, `acceptedOf settled` those that it has accepted by then.

* `Region.met?` — the accepted region with which a region is compared in earnest: the first with
  which it shares a line.
* `Collapses`, `TakesPlace` — the next region is dropped for the accepted one that it meets, or is
  accepted in its place.
* `StandsFor` — what stands in for a region once the loop has passed the given ones: what it
  collapsed into or itself, and then whatever took the place of that in the loop.
* `Overtaken` — in the loop a stand-in that shares a line with the region gave its place to a region
  behind it.

Results:
* `mem_settle_or_replaced`, `exists_mem_settle`: what settling one region does to the accepted ones
  and to the region itself.
* `exists_standsFor`, `StandsFor.mem`: at each step of the loop every region passed has a stand-in,
  which is accepted.
* `StandsFor.split`: what is accepted in front of a stand-in ends before the region starts.
* `deduplicate_standsIn`: every region has a returned stand-in at least as sure, and some returned
  region at least as sure shares a line with it exactly if it was not overtaken.
* `not_deduplicate_overlapping`: a region can be overtaken.
-/

namespace VmScan.Detection

/-! ## Settling one region -/

theorem overlaps_self {region : Region} (h : Ranged region) : region.overlaps region = true :=
  overlaps_iff.mpr ⟨h, h⟩

/-- The accepted region that `region` meets: the first with which it shares a line. -/
def Region.met? (region : Region) (accepted : List Region) : Option Region :=
  accepted.find? (·.overlaps region)

theorem met?_cons_of_overlaps {region first : Region} (rest : List Region)
    (h : first.overlaps region = true) : region.met? (first :: rest) = some first := by
  rw [Region.met?, List.find?_cons, h]

theorem met?_cons_of_misses {region first : Region} (rest : List Region)
    (h : ¬ first.overlaps region = true) : region.met? (first :: rest) = region.met? rest := by
  rw [Region.met?, List.find?_cons, Bool.eq_false_iff.mpr h, Region.met?]

theorem overlaps_of_met? {region kept : Region} {accepted : List Region}
    (h : region.met? accepted = some kept) : kept.overlaps region = true := by
  have hfound := List.find?_some h
  exact hfound

theorem mem_of_met? {region kept : Region} {accepted : List Region}
    (h : region.met? accepted = some kept) : kept ∈ accepted :=
  List.mem_of_find?_eq_some h

/-- An accepted region stays when another is settled, unless that one meets it, is surer, and takes
its place. -/
theorem mem_settle_or_replaced (region : Region) {kept : Region} {accepted : List Region}
    (h : kept ∈ accepted) :
    kept ∈ region.settle accepted ∨
      region ∈ region.settle accepted ∧ region.met? accepted = some kept ∧
        kept.confidence.rank < region.confidence.rank := by
  induction accepted with
  | nil => exact absurd h List.not_mem_nil
  | cons first rest ih =>
    unfold Region.settle
    by_cases hmeet : first.overlaps region = true
    · rw [if_pos hmeet, met?_cons_of_overlaps rest hmeet]
      rcases List.mem_cons.mp h with rfl | hrest
      · by_cases hrank : kept.confidence.rank < region.confidence.rank
        · rw [if_pos hrank]
          exact Or.inr ⟨List.mem_cons_self, rfl, hrank⟩
        · rw [if_neg hrank]
          exact Or.inl List.mem_cons_self
      · exact Or.inl (List.mem_cons_of_mem _ hrest)
    · rw [if_neg hmeet, met?_cons_of_misses rest hmeet]
      rcases List.mem_cons.mp h with rfl | hrest
      · exact Or.inl List.mem_cons_self
      · rcases ih hrest with hstay | ⟨hmem, hover⟩
        · exact Or.inl (List.mem_cons_of_mem first hstay)
        · exact Or.inr ⟨List.mem_cons_of_mem first hmem, hover⟩

/-- A settled region is accepted, or dropped for the accepted one that it meets, which is at least
as sure. -/
theorem exists_mem_settle (region : Region) (accepted : List Region) :
    ∃ kept ∈ region.settle accepted,
      kept = region ∨ region.met? accepted = some kept ∧
        region.confidence.rank ≤ kept.confidence.rank := by
  induction accepted with
  | nil => exact ⟨region, List.mem_singleton.mpr rfl, Or.inl rfl⟩
  | cons first rest ih =>
    unfold Region.settle
    by_cases hmeet : first.overlaps region = true
    · rw [if_pos hmeet, met?_cons_of_overlaps rest hmeet]
      by_cases hrank : first.confidence.rank < region.confidence.rank
      · rw [if_pos hrank]
        exact ⟨region, List.mem_cons_self, Or.inl rfl⟩
      · rw [if_neg hrank]
        exact ⟨first, List.mem_cons_self, Or.inr ⟨rfl, Nat.le_of_not_lt hrank⟩⟩
    · rw [if_neg hmeet, met?_cons_of_misses rest hmeet]
      obtain ⟨kept, hmem, hkept⟩ := ih
      exact ⟨kept, List.mem_cons_of_mem first hmem, hkept⟩

theorem mem_of_mem_settle {region kept : Region} {accepted : List Region}
    (h : kept ∈ region.settle accepted) : kept = region ∨ kept ∈ accepted := by
  induction accepted with
  | nil => exact Or.inl (List.mem_singleton.mp h)
  | cons first rest ih =>
    unfold Region.settle at h
    split_ifs at h <;> simp only [List.mem_cons] at h ⊢
    · exact h.imp_right Or.inr
    · exact Or.inr h
    · rcases h with h | h
      · exact Or.inr (Or.inl h)
      · exact (ih h).imp_right Or.inr

/-- An accepted region was accepted before, or settled on the way. -/
theorem mem_of_mem_foldl_settle {regions accepted : List Region} {kept : Region}
    (h : kept ∈ regions.foldl (fun accepted region => region.settle accepted) accepted) :
    kept ∈ accepted ∨ kept ∈ regions := by
  induction regions generalizing accepted with
  | nil => exact Or.inl h
  | cons region regions ih =>
    rw [List.foldl_cons] at h
    rcases ih h with hsettled | hrest
    · rcases mem_of_mem_settle hsettled with rfl | haccepted
      · exact Or.inr List.mem_cons_self
      · exact Or.inl haccepted
    · exact Or.inr (List.mem_cons_of_mem region hrest)

/-! ## The accepted regions in the loop -/

/-- The accepted regions once the given ones have been settled one after another. -/
def acceptedOf (settled : List Region) : List Region :=
  settled.foldl (fun accepted region => region.settle accepted) []

theorem acceptedOf_concat (settled : List Region) (next : Region) :
    acceptedOf (settled ++ [next]) = next.settle (acceptedOf settled) := by
  rw [acceptedOf, List.foldl_append, List.foldl_cons, List.foldl_nil, acceptedOf]

/-- The region, settled behind `settled`, is dropped: the first accepted region with which it shares
a line is `kept`, and that one is at least as sure. -/
structure Collapses (settled : List Region) (region kept : Region) : Prop where
  meets : region.met? (acceptedOf settled) = some kept
  rank_le : region.confidence.rank ≤ kept.confidence.rank

/-- The region `next`, settled behind `settled`, takes the place of `kept`: that is the first
accepted region with which it shares a line, and less sure. -/
structure TakesPlace (settled : List Region) (kept next : Region) : Prop where
  meets : next.met? (acceptedOf settled) = some kept
  rank_lt : kept.confidence.rank < next.confidence.rank

/-- What stands in for `region` once the loop has passed the given regions. When it is settled, that
is the region that it collapses into, or itself; from then on, a stand-in passes this on to the
region that takes its place. -/
inductive StandsFor (region : Region) : List Region → Region → Prop
  | accepted {settled : List Region} (h : ¬ ∃ kept, Collapses settled region kept) :
      StandsFor region (settled ++ [region]) region
  | collapsed {settled : List Region} {kept : Region} (h : Collapses settled region kept) :
      StandsFor region (settled ++ [region]) kept
  | stays {settled : List Region} {kept next : Region} (h : StandsFor region settled kept)
      (hstays : ¬ TakesPlace settled kept next) : StandsFor region (settled ++ [next]) kept
  | replaced {settled : List Region} {kept next : Region} (h : StandsFor region settled kept)
      (htakes : TakesPlace settled kept next) : StandsFor region (settled ++ [next]) next

/-- On its way through the given regions the loop gave the place of a stand-in that shares a line
with `region` to a region that starts behind the end of `region`. -/
def Overtaken (region : Region) (regions : List Region) : Prop :=
  ∃ settled next rest kept, regions = settled ++ next :: rest ∧
    StandsFor region settled kept ∧ kept.overlaps region = true ∧
    TakesPlace settled kept next ∧ region.finish < next.start

/-! ## The stand-ins in the loop -/

section StandsFor

variable {region kept : Region} {settled : List Region}

/-- **At each step every region passed has a stand-in.** -/
theorem exists_standsFor (h : region ∈ settled) : ∃ kept, StandsFor region settled kept := by
  induction settled using List.reverseRecOn with
  | nil => exact absurd h List.not_mem_nil
  | append_singleton settled next ih =>
    rcases List.mem_append.mp h with hearlier | hlast
    · obtain ⟨kept, hkept⟩ := ih hearlier
      by_cases htakes : TakesPlace settled kept next
      · exact ⟨next, hkept.replaced htakes⟩
      · exact ⟨kept, hkept.stays htakes⟩
    · rw [← List.mem_singleton.mp hlast]
      by_cases hdrop : ∃ kept, Collapses settled region kept
      · obtain ⟨kept, hkept⟩ := hdrop
        exact ⟨kept, .collapsed hkept⟩
      · exact ⟨region, .accepted hdrop⟩

/-- A stand-in is accepted. -/
theorem StandsFor.mem (h : StandsFor region settled kept) : kept ∈ acceptedOf settled := by
  induction h with
  | @accepted settled hno =>
    rw [acceptedOf_concat]
    obtain ⟨other, hother, rfl | ⟨hmeets, hrank⟩⟩ := exists_mem_settle region (acceptedOf settled)
    · exact hother
    · exact absurd ⟨other, hmeets, hrank⟩ hno
  | @collapsed settled kept hdrop =>
    rw [acceptedOf_concat]
    rcases mem_settle_or_replaced region (mem_of_met? hdrop.meets) with
      hstay | ⟨-, -, hrank⟩
    · exact hstay
    · exact absurd hrank (Nat.not_lt.mpr hdrop.rank_le)
  | @stays settled kept next _ hstays ih =>
    rw [acceptedOf_concat]
    rcases mem_settle_or_replaced next ih with hstay | ⟨-, hmeets, hrank⟩
    · exact hstay
    · exact absurd ⟨hmeets, hrank⟩ hstays
  | @replaced settled kept next _ htakes ih =>
    rw [acceptedOf_concat]
    obtain ⟨other, hother, rfl | ⟨hmeets, hrank⟩⟩ := exists_mem_settle next (acceptedOf settled)
    · exact hother
    · rw [htakes.meets, Option.some.injEq] at hmeets
      exact absurd (hmeets ▸ htakes.rank_lt) (Nat.not_lt.mpr hrank)

/-- A stand-in is at least as sure. -/
theorem StandsFor.rank_le (h : StandsFor region settled kept) :
    region.confidence.rank ≤ kept.confidence.rank := by
  induction h with
  | accepted _ => exact Nat.le_refl _
  | collapsed hdrop => exact hdrop.rank_le
  | stays _ _ ih => exact ih
  | replaced _ htakes ih => exact Nat.le_trans ih (Nat.le_of_lt htakes.rank_lt)

/-- A region that has a stand-in has been passed. -/
theorem StandsFor.mem_settled (h : StandsFor region settled kept) : region ∈ settled := by
  induction h with
  | accepted _ => exact List.mem_append_right _ List.mem_cons_self
  | collapsed _ => exact List.mem_append_right _ List.mem_cons_self
  | stays _ _ ih => exact List.mem_append_left _ ih
  | replaced _ _ ih => exact List.mem_append_left _ ih

theorem Overtaken.append {regions : List Region} (more : List Region)
    (h : Overtaken region regions) : Overtaken region (regions ++ more) := by
  obtain ⟨settled, next, rest, kept, rfl, hkept⟩ := h
  exact ⟨settled, next, rest ++ more, kept, by rw [List.append_assoc, List.cons_append], hkept⟩

end StandsFor

/-! ## Proper regions in the order of their first lines -/

/-- Proper regions in the order of their first lines, as the loop passes them. -/
structure Ordered (settled : List Region) : Prop where
  ranged : ∀ region ∈ settled, Ranged region
  ascending : settled.Pairwise fun a b => a.start ≤ b.start

section Ordered

variable {region kept next : Region} {settled : List Region}

theorem Ordered.toSettled (h : Ordered settled) : Settled settled (acceptedOf settled) :=
  settled_nil.foldl h.ranged h.ascending

theorem Ordered.left {more : List Region} (h : Ordered (settled ++ more)) : Ordered settled :=
  ⟨fun region hr => h.ranged region (List.mem_append_left more hr),
    (List.pairwise_append.mp h.ascending).1⟩

theorem Ordered.start_le {rest : List Region} (h : Ordered (settled ++ next :: rest)) :
    ∀ earlier ∈ settled, earlier.start ≤ next.start := fun earlier he =>
  (List.pairwise_append.mp h.ascending).2.2 earlier he next List.mem_cons_self

/-- If the next region meets no accepted one, all of them end before it starts, and it is added. -/
theorem Ordered.acceptedOf_of_misses (h : Ordered (settled ++ [next]))
    (hnone : next.met? (acceptedOf settled) = none) :
    (∀ earlier ∈ acceptedOf settled, earlier.finish < next.start) ∧
      acceptedOf (settled ++ [next]) = acceptedOf settled ++ [next] := by
  have hnext : Ranged next := h.ranged next (List.mem_append_right settled List.mem_cons_self)
  have hbehind : ∀ earlier ∈ acceptedOf settled, earlier.finish < next.start := fun earlier he =>
    finish_lt_start hnext (h.left.toSettled.start_le h.start_le earlier he)
      (Bool.eq_false_iff.mpr (List.find?_eq_none.mp hnone earlier he))
  exact ⟨hbehind, by rw [acceptedOf_concat, settle_of_behind hbehind]⟩

/-- If the next region meets an accepted one, that is the last, all in front of it end before the
next starts, and the surer of the two stays in its place. -/
theorem Ordered.acceptedOf_of_meets {front behind : List Region} (h : Ordered (settled ++ [next]))
    (haccepted : acceptedOf settled = front ++ kept :: behind)
    (hmeet : kept.overlaps next = true) :
    behind = [] ∧ (∀ earlier ∈ front, earlier.finish < next.start) ∧
      acceptedOf (settled ++ [next]) = front ++ [kept.surer next] := by
  have hsettled := h.left.toSettled
  have hnil := hsettled.eq_nil_of_overlaps h.start_le haccepted hmeet
  rw [hnil] at haccepted
  have hle := hsettled.start_le h.start_le kept
    (haccepted ▸ List.mem_append_right front List.mem_cons_self)
  have hfront := (haccepted ▸ hsettled.apart).finish_lt_of_concat hle
  exact ⟨hnil, hfront, by rw [acceptedOf_concat, haccepted, settle_of_meets hfront hmeet]⟩

/-- The same from the search: the accepted region that the next one meets is the last. -/
theorem Ordered.acceptedOf_of_met? (h : Ordered (settled ++ [next]))
    (hfind : next.met? (acceptedOf settled) = some kept) :
    ∃ front, acceptedOf settled = front ++ [kept] ∧
      (∀ earlier ∈ front, earlier.finish < next.start) ∧
      acceptedOf (settled ++ [next]) = front ++ [kept.surer next] := by
  obtain ⟨hmeet, front, behind, haccepted, -⟩ := List.find?_eq_some_iff_append.mp hfind
  obtain ⟨rfl, hfront, hstep⟩ := h.acceptedOf_of_meets haccepted hmeet
  exact ⟨front, haccepted, hfront, hstep⟩

theorem Collapses.surer_eq (h : Collapses settled region kept) : kept.surer region = kept := by
  rw [Region.surer, if_neg (Nat.not_lt.mpr h.rank_le)]

theorem Collapses.overlaps (h : Collapses settled region kept) : kept.overlaps region = true :=
  overlaps_of_met? h.meets

theorem TakesPlace.surer_eq (h : TakesPlace settled kept next) : kept.surer next = next := by
  rw [Region.surer, if_pos h.rank_lt]

theorem TakesPlace.overlaps (h : TakesPlace settled kept next) : kept.overlaps next = true :=
  overlaps_of_met? h.meets

/-- A stand-in that is not replaced in the next step has the same accepted regions in front of it
afterwards. -/
theorem Ordered.split_of_stays {front behind : List Region} (h : Ordered (settled ++ [next]))
    (haccepted : acceptedOf settled = front ++ kept :: behind)
    (hstays : ¬ TakesPlace settled kept next) :
    ∃ behind, acceptedOf (settled ++ [next]) = front ++ kept :: behind := by
  cases hfind : next.met? (acceptedOf settled) with
  | none =>
    refine ⟨behind ++ [next], ?_⟩
    rw [(h.acceptedOf_of_misses hfind).2, haccepted, List.append_assoc, List.cons_append]
  | some last =>
    obtain ⟨others, hlast, -, hstep⟩ := h.acceptedOf_of_met? hfind
    rw [hstep]
    rw [haccepted] at hlast
    rcases List.eq_nil_or_concat behind with rfl | ⟨between, final, rfl⟩
    · -- the stand-in is the last accepted region, and at least as sure as the next
      obtain ⟨rfl, hsame⟩ := List.append_inj' hlast rfl
      obtain rfl : kept = last := List.singleton_inj.mp hsame
      have hdrop : Collapses settled next kept :=
        ⟨hfind, Nat.le_of_not_lt fun hrank => hstays ⟨hfind, hrank⟩⟩
      exact ⟨[], by rw [hdrop.surer_eq]⟩
    · -- the last accepted region stands behind the stand-in
      rw [List.concat_eq_append, ← List.cons_append, ← List.append_assoc] at hlast
      obtain ⟨rfl, -⟩ := List.append_inj' hlast rfl
      exact ⟨between ++ [last.surer next], by rw [List.append_assoc, List.cons_append]⟩

/-- **What is accepted in front of a stand-in ends before the region starts.** A stand-in has the
place at which the region was settled, however often that was given away since. -/
theorem StandsFor.split (h : StandsFor region settled kept) (hordered : Ordered settled) :
    ∃ front behind, acceptedOf settled = front ++ kept :: behind ∧
      ∀ earlier ∈ front, earlier.finish < region.start := by
  induction h with
  | @accepted settled hno =>
    cases hfind : region.met? (acceptedOf settled) with
    | none =>
      obtain ⟨hbehind, hstep⟩ := hordered.acceptedOf_of_misses hfind
      exact ⟨acceptedOf settled, [], hstep, hbehind⟩
    | some last =>
      obtain ⟨front, -, hfront, hstep⟩ := hordered.acceptedOf_of_met? hfind
      have htakes : TakesPlace settled last region :=
        ⟨hfind, Nat.lt_of_not_le fun hrank => hno ⟨last, hfind, hrank⟩⟩
      exact ⟨front, [], by rw [hstep, htakes.surer_eq], hfront⟩
  | @collapsed settled kept hdrop =>
    obtain ⟨front, -, hfront, hstep⟩ := hordered.acceptedOf_of_met? hdrop.meets
    exact ⟨front, [], by rw [hstep, hdrop.surer_eq], hfront⟩
  | @stays settled kept next _ hstays ih =>
    obtain ⟨front, behind, haccepted, hfront⟩ := ih hordered.left
    obtain ⟨behind, hstep⟩ := hordered.split_of_stays haccepted hstays
    exact ⟨front, behind, hstep, hfront⟩
  | @replaced settled kept next _ htakes ih =>
    obtain ⟨front, behind, haccepted, hfront⟩ := ih hordered.left
    obtain ⟨-, -, hstep⟩ := hordered.acceptedOf_of_meets haccepted htakes.overlaps
    exact ⟨front, [], by rw [hstep, htakes.surer_eq], hfront⟩

/-- A stand-in shares a line with the region, unless the region was overtaken: the first that does
not was accepted behind its end, in place of one that does. -/
theorem StandsFor.overlaps_or_overtaken (h : StandsFor region settled kept)
    (hordered : Ordered settled) : kept.overlaps region = true ∨ Overtaken region settled := by
  induction h with
  | @accepted settled _ =>
    exact Or.inl (overlaps_self
      (hordered.ranged region (List.mem_append_right settled List.mem_cons_self)))
  | collapsed hdrop => exact Or.inl hdrop.overlaps
  | stays _ _ ih => exact (ih hordered.left).imp_right (Overtaken.append _)
  | @replaced settled kept next hkept htakes ih =>
    rcases ih hordered.left with hmeet | hover
    · by_cases hnext : next.overlaps region = true
      · exact Or.inl hnext
      · have hmiss : region.overlaps next = false :=
          (overlaps_comm region next).trans (Bool.eq_false_iff.mpr hnext)
        have hranged : Ranged next :=
          hordered.ranged next (List.mem_append_right settled List.mem_cons_self)
        have hbehind : region.finish < next.start :=
          finish_lt_start hranged (hordered.start_le region hkept.mem_settled) hmiss
        exact Or.inr ⟨settled, next, [], kept, rfl, hkept, hmeet, htakes, hbehind⟩
    · exact Or.inr (hover.append [next])

/-- **No accepted region shares a line with one that was overtaken.** Those in front of the stand-in
that was replaced end before the region starts; that one was the last, and whatever the loop passes
from then on starts behind the end of the region. -/
theorem Overtaken.overlaps_eq_false {regions : List Region} (h : Overtaken region regions)
    (hordered : Ordered regions) :
    ∀ kept ∈ acceptedOf regions, kept.overlaps region = false := by
  obtain ⟨settled, next, rest, last, rfl, hlast, -, htakes, hbehind⟩ := h
  rw [List.append_cons] at hordered ⊢
  obtain ⟨front, behind, haccepted, hfront⟩ := hlast.split hordered.left.left
  obtain ⟨-, -, hstep⟩ := hordered.left.acceptedOf_of_meets haccepted htakes.overlaps
  rw [htakes.surer_eq] at hstep
  intro kept hkept
  rw [acceptedOf, List.foldl_append, ← acceptedOf, hstep] at hkept
  rcases mem_of_mem_foldl_settle hkept with hpassed | hrest
  · rcases List.mem_append.mp hpassed with hf | hnext
    · exact overlaps_eq_false_iff.mpr (Or.inr (hfront kept hf))
    · rw [List.mem_singleton.mp hnext]
      exact overlaps_eq_false_iff.mpr (Or.inl hbehind)
  · have hle : next.start ≤ kept.start :=
      (List.pairwise_append.mp hordered.ascending).2.2 next
        (List.mem_append_right settled List.mem_cons_self) kept hrest
    exact overlaps_eq_false_iff.mpr (Or.inl (Int.lt_of_lt_of_le hbehind hle))

end Ordered

/-! ## The returned regions -/

/-- **Every claim leaves a stand-in.** For proper regions, each has a stand-in among the returned
ones that is at least as sure. Some returned region that is at least as sure shares a line with it
exactly if the loop gave no stand-in that does to a region behind its end. -/
theorem deduplicate_standsIn (regions : List Region)
    (h : ∀ region ∈ regions, region.start ≤ region.finish) :
    ∀ region ∈ regions,
      (∃ kept ∈ deduplicate regions, StandsFor region (sortByStart regions) kept ∧
        region.confidence.rank ≤ kept.confidence.rank) ∧
      ((∃ kept ∈ deduplicate regions, kept.overlaps region = true ∧
          region.confidence.rank ≤ kept.confidence.rank) ↔
        ¬ Overtaken region (sortByStart regions)) := by
  intro region hregion
  have hordered : Ordered (sortByStart regions) :=
    ⟨fun other ho => h other (List.mem_mergeSort.mp ho), ascending_sortByStart regions⟩
  obtain ⟨kept, hstands⟩ := exists_standsFor (List.mem_mergeSort.mpr hregion)
  refine ⟨⟨kept, hstands.mem, hstands, hstands.rank_le⟩, fun hmeets hover => ?_, fun hnone => ?_⟩
  · obtain ⟨other, hother, hmeet, -⟩ := hmeets
    exact Bool.false_ne_true ((hover.overlaps_eq_false hordered other hother).symm.trans hmeet)
  · have hmeet := (hstands.overlaps_or_overtaken hordered).resolve_right hnone
    exact ⟨kept, hstands.mem, hmeet, hstands.rank_le⟩

/-! ## A chain of claims -/

/-- A claim of the given lines. -/
def claim (start finish : Int) (confidence : Confidence) : Region :=
  { start, finish, kind := .switchDispatcher, confidence, description := "" }

/-- Three claims, each surer than the one before, of which only neighbours share a line. -/
def risingClaims : List Region :=
  [claim 1 10 .low, claim 5 20 .medium, claim 15 30 .high]

theorem deduplicate_risingClaims : deduplicate risingClaims = [claim 15 30 .high] := by
  have hsorted : sortByStart risingClaims = risingClaims :=
    List.mergeSort_of_pairwise (by decide)
  rw [deduplicate, hsorted]
  rfl

/-- The first of the three claims has the last as its stand-in, and was overtaken. -/
theorem deduplicate_standsIn_risingClaims :
    (∀ region ∈ risingClaims, region.start ≤ region.finish) ∧
      StandsFor (claim 1 10 .low) (sortByStart risingClaims) (claim 15 30 .high) ∧
      Overtaken (claim 1 10 .low) (sortByStart risingClaims) := by
  have hranged : ∀ region ∈ risingClaims, region.start ≤ region.finish := by decide
  obtain ⟨⟨kept, hkept, hstands, -⟩, hmeets⟩ :=
    deduplicate_standsIn risingClaims hranged (claim 1 10 .low) (by decide)
  rw [deduplicate_risingClaims] at hkept hmeets
  obtain rfl := List.mem_singleton.mp hkept
  refine ⟨hranged, hstands, Classical.byContradiction fun hnone => ?_⟩
  exact absurd (hmeets.mpr hnone) (by decide)

/-- **A stand-in need not share a line**: of the three claims only the last is returned, and the
first shares no line with it. -/
theorem not_deduplicate_overlapping :
    ¬ ∀ regions : List Region, (∀ region ∈ regions, region.start ≤ region.finish) →
      ∀ region ∈ regions, ∃ kept ∈ deduplicate regions,
        kept.overlaps region = true ∧ region.confidence.rank ≤ kept.confidence.rank := by
  intro hall
  obtain ⟨kept, hkept, hmeet, -⟩ := hall risingClaims (by decide) (claim 1 10 .low) (by decide)
  rw [deduplicate_risingClaims, List.mem_singleton] at hkept
  rw [hkept] at hmeet
  exact absurd hmeet (by decide)

end VmScan.Detection
