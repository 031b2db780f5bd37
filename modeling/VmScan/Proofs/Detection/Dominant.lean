import Mathlib.Data.Finset.Max
import Mathlib.Data.Fintype.Basic
import Mathlib.Data.Prod.Lex
import Mathlib.Logic.Relation
import VmScan.Proofs.Detection.StandIn

/-!
# A dominant claim always survives

A region is accepted, whatever comes before it, if every accepted region that it meets is less
sure, and it stays accepted, whatever comes after it, as long as nothing surer meets it. Which
regions come before it is said of the regions as they are given, by number: the same region may be
given more than once, and of two that start on one line the first given is settled first.

* `Before`, `settleOrder` — the order in which the regions are settled, by number.
* `Dominant` — every other region that shares a line with this one is less sure, or as sure and
  settled later.
* `Linked` — two regions belong to one group: a row of regions leads from one to the other, each
  of which shares a line with the next.
* `Leads` — the first of the surest regions of its group.

Results:
* `mem_foldl_settle`: in a row of regions one is accepted to the end if those before it that it
  meets are less sure and those after it are not surer.
* `map_settleOrder`, `pairwise_settleOrder`: the sorted regions are the regions in that order.
* `exists_leads`: every group has a region that leads it.
* `mem_deduplicate_of_dominant`: a dominant region is returned, and so is the one that leads its
  group.
-/

namespace VmScan.Detection

/-! ## A region along a run -/

/-- **One step in.** A region is accepted if every accepted one that it meets is less sure. -/
theorem mem_settle_of_surer {region : Region} {accepted : List Region}
    (h : ∀ kept ∈ accepted, kept.overlaps region = true →
      kept.confidence.rank < region.confidence.rank) :
    region ∈ region.settle accepted := by
  obtain ⟨kept, hkept, rfl | ⟨hmeets, hrank⟩⟩ := exists_mem_settle region accepted
  · exact hkept
  · have hlt := h kept (mem_of_met? hmeets) (overlaps_of_met? hmeets)
    exact absurd hlt (Nat.not_lt.mpr hrank)

/-- **The steps after it.** An accepted region stays if nothing surer meets it. -/
theorem mem_foldl_settle_of_mem {region : Region} {regions accepted : List Region}
    (hmem : region ∈ accepted)
    (h : ∀ other ∈ regions, other.overlaps region = true →
      other.confidence.rank ≤ region.confidence.rank) :
    region ∈ regions.foldl (fun accepted region => region.settle accepted) accepted := by
  induction regions generalizing accepted with
  | nil => exact hmem
  | cons other regions ih =>
    rw [List.foldl_cons]
    refine ih ?_ fun next hnext => h next (List.mem_cons_of_mem other hnext)
    rcases mem_settle_or_replaced other hmem with hstay | ⟨-, hmeets, hrank⟩
    · exact hstay
    · have hmeet := (overlaps_comm other region).trans (overlaps_of_met? hmeets)
      exact absurd hrank (Nat.not_lt.mpr (h other List.mem_cons_self hmeet))

/-- **A whole run.** In a row of regions one is accepted to the end if those before it that it
meets are less sure and those after it are not surer. -/
theorem mem_foldl_settle {region : Region} {before after : List Region}
    (hbefore : ∀ other ∈ before, other.overlaps region = true →
      other.confidence.rank < region.confidence.rank)
    (hafter : ∀ other ∈ after, other.overlaps region = true →
      other.confidence.rank ≤ region.confidence.rank) :
    region ∈ (before ++ region :: after).foldl
      (fun accepted region => region.settle accepted) [] := by
  rw [List.foldl_append, List.foldl_cons]
  refine mem_foldl_settle_of_mem (mem_settle_of_surer fun kept hkept => ?_) hafter
  rcases mem_of_mem_foldl_settle hkept with hnone | hseen
  · exact absurd hnone List.not_mem_nil
  · exact hbefore kept hseen

/-! ## The order of settling, by number -/

variable (regions : List Region)

/-- Region number `i` is settled before region number `j`. -/
def Before (i j : Fin regions.length) : Prop :=
  regions[i].start < regions[j].start ∨ regions[i].start = regions[j].start ∧ i < j

/-- Every other region that shares a line with region number `i` is less sure, or as sure and
settled later. -/
def Dominant (i : Fin regions.length) : Prop :=
  ∀ j, j ≠ i → regions[j].overlaps regions[i] = true →
    regions[j].confidence.rank < regions[i].confidence.rank ∨
      regions[j].confidence.rank = regions[i].confidence.rank ∧ Before regions i j

variable {regions}

instance (i j : Fin regions.length) : Decidable (Before regions i j) :=
  inferInstanceAs (Decidable (_ ∨ _))

theorem Before.asymm {i j : Fin regions.length} (hij : Before regions i j) :
    ¬ Before regions j i := by
  unfold Before at *
  omega

theorem Before.ne {i j : Fin regions.length} (hij : Before regions i j) : i ≠ j := by
  rintro rfl
  exact hij.asymm hij

theorem not_before_iff {i j : Fin regions.length} :
    ¬ Before regions j i ↔ regions[i].start < regions[j].start ∨
      regions[i].start = regions[j].start ∧ (i : Nat) ≤ j := by
  unfold Before
  omega

variable (regions) in
/-- The numbers of the regions in the order in which they are settled. -/
def settleOrder : List (Fin regions.length) :=
  (List.finRange regions.length).mergeSort fun i j => !decide (Before regions j i)

theorem mem_settleOrder (i : Fin regions.length) : i ∈ settleOrder regions :=
  List.mem_mergeSort.mpr (List.mem_finRange i)

/-- The stable order by first lines, on numbered regions. -/
theorem zipIdxLE_iff {a b : Region × Nat} :
    List.zipIdxLE (fun a b => decide (a.start ≤ b.start)) a b = true ↔
      a.1.start < b.1.start ∨ a.1.start = b.1.start ∧ a.2 ≤ b.2 := by
  unfold List.zipIdxLE
  simp only [decide_eq_true_eq]
  split_ifs with hab hba
  · simp only [decide_eq_true_eq]
    omega
  · simp only [true_iff]
    omega
  · simp only [false_iff]
    omega

variable (regions) in
/-- A region with its number. -/
def numbered (i : Fin regions.length) : Region × Nat :=
  (regions[i], i)

theorem map_numbered : (List.finRange regions.length).map (numbered regions) = regions.zipIdx := by
  refine List.ext_getElem (by simp) fun i hi hzip => ?_
  simp [numbered]

/-- The regions by number are the sorted regions: the sort keeps the numbers with them. -/
theorem map_settleOrder : (settleOrder regions).map (regions[·]) = sortByStart regions := by
  have horder (i j : Fin regions.length) : (!decide (Before regions j i)) =
      List.zipIdxLE (fun a b => decide (a.start ≤ b.start)) (numbered regions i)
        (numbered regions j) := by
    rw [Bool.eq_iff_iff, zipIdxLE_iff, Bool.not_eq_true', decide_eq_false_iff_not, not_before_iff]
    rfl
  have hmap := List.map_mergeSort (l := List.finRange regions.length) (f := numbered regions)
    fun i _ j _ => horder i j
  calc (settleOrder regions).map (regions[·])
      = ((settleOrder regions).map (numbered regions)).map (·.1) := by
        rw [List.map_map]
        rfl
    _ = (regions.zipIdx.mergeSort _).map (·.1) := by rw [settleOrder, hmap, map_numbered]
    _ = sortByStart regions := List.mergeSort_zipIdx

/-- No two regions have one number, so the order is strict. -/
theorem pairwise_settleOrder : (settleOrder regions).Pairwise (Before regions) := by
  have hsorted : (settleOrder regions).Pairwise fun i j => (!decide (Before regions j i)) = true := by
    refine List.pairwise_mergeSort (fun i j k => ?_) (fun i j => ?_) _
    · simp only [Bool.not_eq_true', decide_eq_false_iff_not, not_before_iff]
      omega
    · simp only [Bool.or_eq_true, Bool.not_eq_true', decide_eq_false_iff_not, not_before_iff]
      omega
  have hnodup : (settleOrder regions).Nodup :=
    (List.mergeSort_perm _ _).nodup_iff.mpr (List.nodup_finRange _)
  refine (hsorted.and hnodup).imp fun {i j} ⟨hle, hne⟩ => ?_
  simp only [Bool.not_eq_true', decide_eq_false_iff_not, not_before_iff] at hle
  unfold Before
  omega

/-- **The sorted regions around a given one**: those in front of it are settled before it by
number, and those behind it after it. -/
theorem exists_sortByStart_eq (i : Fin regions.length) :
    ∃ before after : List (Fin regions.length),
      sortByStart regions = before.map (regions[·]) ++ regions[i] :: after.map (regions[·]) ∧
        (∀ j ∈ before, Before regions j i) ∧ ∀ j ∈ after, Before regions i j := by
  obtain ⟨before, after, hsplit⟩ := List.append_of_mem (mem_settleOrder i)
  have hpair := @pairwise_settleOrder regions
  have hmap := @map_settleOrder regions
  rw [hsplit] at hpair hmap
  obtain ⟨-, hbehind, hfront⟩ := List.pairwise_append.mp hpair
  refine ⟨before, after, ?_, fun j hj => hfront j hj i List.mem_cons_self,
    (List.pairwise_cons.mp hbehind).1⟩
  rw [← hmap, List.map_append, List.map_cons]

/-- A dominant region is returned. -/
theorem Dominant.mem_deduplicate {i : Fin regions.length} (h : Dominant regions i) :
    regions[i] ∈ deduplicate regions := by
  obtain ⟨before, after, hsorted, hbefore, hafter⟩ := exists_sortByStart_eq i
  rw [deduplicate, hsorted]
  refine mem_foldl_settle (fun other ho hmeet => ?_) (fun other ho hmeet => ?_)
  · -- one settled before it cannot be as sure
    obtain ⟨j, hj, rfl⟩ := List.mem_map.mp ho
    have hji := hbefore j hj
    rcases h j hji.ne hmeet with hless | ⟨-, hlater⟩
    · exact hless
    · exact absurd hlater hji.asymm
  · obtain ⟨j, hj, rfl⟩ := List.mem_map.mp ho
    rcases h j (hafter j hj).ne.symm hmeet with hless | ⟨hsame, -⟩
    · exact Nat.le_of_lt hless
    · exact Nat.le_of_eq hsame

/-! ## Groups -/

variable (regions) in
/-- A row of regions leads from number `i` to number `j`, each of which shares a line with the
next. -/
def Linked (i j : Fin regions.length) : Prop :=
  Relation.ReflTransGen (fun i j => regions[i].overlaps regions[j] = true) i j

variable (regions) in
/-- Region number `i` is the first of the surest regions of its group. -/
def Leads (i : Fin regions.length) : Prop :=
  ∀ j, Linked regions i j →
    regions[j].confidence.rank ≤ regions[i].confidence.rank ∧
      (j ≠ i → regions[j].confidence.rank = regions[i].confidence.rank → Before regions i j)

/-- The region that leads a group dominates it. -/
theorem Leads.dominant {i : Fin regions.length} (h : Leads regions i) : Dominant regions i := by
  intro j hne hmeet
  rw [overlaps_comm] at hmeet
  obtain ⟨hrank, hfirst⟩ := h j (Relation.ReflTransGen.single hmeet)
  rcases Nat.lt_or_eq_of_le hrank with hless | hsame
  · exact Or.inl hless
  · exact Or.inr ⟨hsame, hfirst hne hsame⟩

/-- **Every group has a region that leads it**: of the regions of the group take the surest, and of
those the one that is settled first. -/
theorem exists_leads (i : Fin regions.length) :
    ∃ k, Linked regions i k ∧ Leads regions k := by
  classical
  let group : Finset (Fin regions.length) := {j | Linked regions i j}
  have hgroup : ∀ {j}, j ∈ group ↔ Linked regions i j := Finset.mem_filter_univ _
  obtain ⟨top, htop, hmax⟩ := group.exists_max_image (fun j => regions[j].confidence.rank)
    ⟨i, hgroup.mpr Relation.ReflTransGen.refl⟩
  let surest := group.filter fun j => regions[j].confidence.rank = regions[top].confidence.rank
  obtain ⟨k, hk, hmin⟩ := surest.exists_min_image (fun j => toLex (regions[j].start, j))
    ⟨top, Finset.mem_filter.mpr ⟨htop, rfl⟩⟩
  obtain ⟨hmember, hrank⟩ := Finset.mem_filter.mp hk
  have hlinked := hgroup.mp hmember
  refine ⟨k, hlinked, fun j hj => ?_⟩
  have hj' : j ∈ group := hgroup.mpr (hlinked.trans hj)
  refine ⟨?_, fun hne hsame => ?_⟩
  · rw [hrank]
    exact hmax j hj'
  · have hlex := hmin j (Finset.mem_filter.mpr ⟨hj', hsame.trans hrank⟩)
    rcases Prod.Lex.toLex_le_toLex.mp hlex with hless | ⟨hsame, hle⟩
    · exact Or.inl hless
    · exact Or.inr ⟨hsame, lt_of_le_of_ne hle (Ne.symm hne)⟩

/-! ## The returned regions -/

/-- **A dominant claim always survives.** A region is returned if every other region that shares a
line with it is less sure, or as sure and settled later. In particular every group of regions
linked by shared lines has a first surest region, which is returned. -/
theorem mem_deduplicate_of_dominant (regions : List Region) :
    (∀ i, Dominant regions i → regions[i] ∈ deduplicate regions) ∧
      ∀ i, ∃ k, Linked regions i k ∧ Leads regions k ∧ regions[k] ∈ deduplicate regions := by
  refine ⟨fun i h => h.mem_deduplicate, fun i => ?_⟩
  obtain ⟨k, hlinked, hleads⟩ := exists_leads i
  exact ⟨k, hlinked, hleads, hleads.dominant.mem_deduplicate⟩

/-- Of the three rising claims the last is dominant, and it is in one group with the first although
the two share no line. -/
theorem mem_deduplicate_of_dominant_risingClaims :
    let first : Fin risingClaims.length := ⟨0, by decide⟩
    let last : Fin risingClaims.length := ⟨2, by decide⟩
    Dominant risingClaims last ∧ risingClaims[last] ∈ deduplicate risingClaims ∧
      risingClaims[first].overlaps risingClaims[last] = false ∧
        Linked risingClaims first last := by
  intro first last
  let middle : Fin risingClaims.length := ⟨1, by decide⟩
  have hdominant : Dominant risingClaims last := by
    unfold Dominant
    decide
  have hmiddle : Linked risingClaims first middle := Relation.ReflTransGen.single (by decide)
  have hlast : Linked risingClaims first last := hmiddle.tail (by decide)
  exact ⟨hdominant, (mem_deduplicate_of_dominant risingClaims).1 last hdominant, by decide, hlast⟩

end VmScan.Detection
