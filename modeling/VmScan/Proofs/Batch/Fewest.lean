import Mathlib.Algebra.BigOperators.Group.List.Basic
import Mathlib.Algebra.GroupWithZero.Nat
import VmScan.Proofs.Batch.Pack

/-!
# Packing makes the fewest groups

Every group of a script costs one request, so `split_by_token_limit` should make as few as it can.
Closing a group as late as possible does that: in any other division the group that holds an item
starts no earlier than the one that is being gathered, or some group was closed before it.

* `Fits` — what may go into one request: a single item, or items that are within the budget
  together.
* `Division` — a row of items cut into groups that fit, none of them empty.

Results:
* `exists_group_of_flatten`: an item of the joined groups stands in one of them.
* `fits_of_mem_pack`: every group of a packing fits.
* `length_pack_le`: no division of the items has fewer groups than their packing, also if it has
  more items to divide in front.
* `split_fewest`: the groups for a budget are a division of the lines with the fewest groups.
-/

namespace VmScan.Batching

variable {α : Type} {cost : α → Nat} {budget : Nat}

/-! ## Divisions -/

/-- The group may go into one request: it is a single item, or its items are within the budget
together. -/
def Fits (cost : α → Nat) (budget : Nat) (group : List α) : Prop :=
  group.length = 1 ∨ (group.map cost).sum ≤ budget

/-- The items in groups, in order, none of them empty, each of which fits. -/
structure Division (cost : α → Nat) (budget : Nat) (items : List α) (groups : List (List α)) :
    Prop where
  joined : groups.flatten = items
  occupied : [] ∉ groups
  fits : ∀ group ∈ groups, Fits cost budget group

/-- An item of the joined groups stands in one of them. -/
theorem exists_group_of_flatten {groups : List (List α)} {left right : List α} {item : α}
    (h : groups.flatten = left ++ item :: right) :
    ∃ before head tail after, groups = before ++ (head ++ item :: tail) :: after ∧
      before.flatten ++ head = left ∧ tail ++ after.flatten = right := by
  induction groups generalizing left with
  | nil => simp at h
  | cons group groups ih =>
    rw [List.flatten_cons, List.append_eq_append_iff] at h
    rcases h with ⟨more, rfl, hrest⟩ | ⟨more, rfl, hitem⟩
    · obtain ⟨before, head, tail, after, rfl, rfl, rfl⟩ := ih hrest
      exact ⟨group :: before, head, tail, after, rfl, by simp, rfl⟩
    · cases more with
      | nil =>
        -- the item is the first behind this group
        obtain ⟨before, head, tail, after, rfl, hleft, rfl⟩ := @ih [] hitem.symm
        refine ⟨(left ++ []) :: before, head, tail, after, rfl, ?_, rfl⟩
        rw [List.flatten_cons, List.append_assoc, hleft, List.append_nil, List.append_nil]
      | cons first tail =>
        rw [List.cons_append, List.cons.injEq] at hitem
        obtain ⟨rfl, rfl⟩ := hitem
        exact ⟨[], left, tail, groups, rfl, by simp, rfl⟩

/-- An item that is over the budget alone fits only alone. -/
theorem eq_singleton_of_fits {head tail : List α} {item : α}
    (h : Fits cost budget (head ++ item :: tail)) (hover : budget < cost item) :
    head = [] ∧ tail = [] := by
  rcases h with hsingle | hsum
  · simp only [List.length_append, List.length_cons] at hsingle
    exact ⟨List.eq_nil_of_length_eq_zero (by omega), List.eq_nil_of_length_eq_zero (by omega)⟩
  · simp only [List.map_append, List.map_cons, List.sum_append, List.sum_cons] at hsum
    omega

/-- Items that are over the budget together with the next one do not fit with it. -/
theorem not_fits_of_full {front pending tail : List α} {item : α} (hpending : pending ≠ [])
    (hfull : budget < (pending.map cost).sum + cost item) :
    ¬ Fits cost budget (front ++ pending ++ item :: tail) := by
  rintro (hsingle | hsum)
  · have := List.length_pos_iff.mpr hpending
    simp only [List.length_append, List.length_cons] at hsingle
    omega
  · simp only [List.map_append, List.map_cons, List.sum_append, List.sum_cons] at hsum
    omega

/-! ## Every group fits -/

theorem fits_singleton (item : α) : Fits cost budget [item] := Or.inl rfl

theorem fits_of_mem_flush {pending group : List α} (h : (pending.map cost).sum ≤ budget)
    (hgroup : group ∈ flush pending) : Fits cost budget group := by
  cases pending with
  | nil => exact absurd hgroup List.not_mem_nil
  | cons item items =>
    rw [flush_cons, List.mem_singleton] at hgroup
    subst hgroup
    exact Or.inr h

/-- **Every group of a packing fits**, as long as `used` is what has been gathered costs, and is
within the budget. -/
theorem fits_of_mem_pack {pending : List α} {used : Nat} {items : List α}
    (hused : used = (pending.map cost).sum) (hwithin : used ≤ budget) :
    ∀ group ∈ pack cost budget pending used items, Fits cost budget group := by
  induction items generalizing pending used with
  | nil =>
    intro group hgroup
    exact fits_of_mem_flush (hused ▸ hwithin) hgroup
  | cons item items ih =>
    intro group hgroup
    unfold pack at hgroup
    split_ifs at hgroup with hover hfull
    · rw [List.mem_append, List.mem_cons] at hgroup
      rcases hgroup with hgroup | rfl | hgroup
      · exact fits_of_mem_flush (hused ▸ hwithin) hgroup
      · exact fits_singleton item
      · exact @ih [] 0 rfl (Nat.zero_le budget) group hgroup
    · rcases List.mem_cons.mp hgroup with rfl | hgroup
      · exact Or.inr (hused ▸ hwithin)
      · exact ih (by simp) (Nat.le_of_not_lt hover) group hgroup
    · refine ih (by simp [hused]) ?_ group hgroup
      -- an item that is gathered is within the budget alone, and no group is full before it
      cases pending with
      | nil =>
        rw [hused, List.map_nil, List.sum_nil, Nat.zero_add]
        exact Nat.le_of_not_lt hover
      | cons first rest =>
        simpa using hfull

/-! ## No division has fewer groups -/

theorem length_flush_le {groups : List (List α)} {front pending : List α}
    (h : groups.flatten = front ++ pending) : (flush pending).length ≤ groups.length := by
  cases pending with
  | nil => exact Nat.zero_le groups.length
  | cons item items =>
    cases groups with
    | nil => simp at h
    | cons group groups => exact Nat.succ_le_succ (Nat.zero_le groups.length)

/-- **No division has fewer groups than a packing.** The items in front stand for a part of an
earlier group: where the packing closes a group, the other division has closed one too, but may
have carried items over into the next. -/
theorem length_pack_le {pending : List α} {used : Nat} {items front : List α}
    {groups : List (List α)} (hused : used = (pending.map cost).sum)
    (hjoined : groups.flatten = front ++ pending ++ items)
    (hfits : ∀ group ∈ groups, Fits cost budget group) :
    (pack cost budget pending used items).length ≤ groups.length := by
  induction items generalizing pending used front groups with
  | nil =>
    rw [List.append_nil] at hjoined
    exact length_flush_le hjoined
  | cons item items ih =>
    unfold pack
    split_ifs with hover hfull
    · -- the item stands alone in every division
      obtain ⟨before, head, tail, after, rfl, hbefore, hafter⟩ := exists_group_of_flatten hjoined
      have hgroup : Fits cost budget (head ++ item :: tail) := hfits _ (by simp)
      obtain ⟨rfl, rfl⟩ := eq_singleton_of_fits hgroup hover
      rw [List.append_nil] at hbefore
      rw [List.nil_append] at hafter
      have hflush := length_flush_le hbefore
      have hrest := @ih [] 0 [] after rfl hafter
        fun other hother => hfits other (by simp [hother])
      simp only [List.length_append, List.length_cons]
      omega
    · -- a group was closed before the one that holds the item
      rw [Bool.and_eq_true, Bool.not_eq_true', List.isEmpty_eq_false_iff, decide_eq_true_eq] at hfull
      obtain ⟨before, head, tail, after, rfl, hbefore, hafter⟩ := exists_group_of_flatten hjoined
      have hgroup : Fits cost budget (head ++ item :: tail) := hfits _ (by simp)
      have hclosed : before ≠ [] := by
        rintro rfl
        rw [List.flatten_nil, List.nil_append] at hbefore
        subst hbefore
        exact not_fits_of_full hfull.1 (hused ▸ hfull.2) hgroup
      have hrest := @ih [item] (cost item) head ((head ++ item :: tail) :: after) (by simp)
        (by simp [← hafter])
        fun other hother => hfits other (List.mem_append_right before hother)
      have := List.length_pos_iff.mpr hclosed
      simp only [List.length_append, List.length_cons] at hrest ⊢
      omega
    · exact @ih (pending ++ [item]) _ front groups (by simp [hused]) (by simpa using hjoined) hfits

/-- A packing is a division of its items. -/
theorem division_pack (cost : α → Nat) (budget : Nat) (items : List α) :
    Division cost budget items (pack cost budget [] 0 items) where
  joined := by rw [flatten_pack, List.nil_append]
  occupied := nil_not_mem_pack cost budget [] 0 items
  fits := fits_of_mem_pack rfl (Nat.zero_le budget)

/-! ## The groups for a budget -/

/-- **Lines are packed into the fewest groups.** For every positive budget and counter the lines
are divided into groups, each a single line or within the budget with the line feeds counted, and
no other such division has fewer groups. -/
theorem split_fewest (count : TokenCounter) {budget : Int} (hbudget : 1 ≤ budget)
    (lines : List String) :
    ∃ groups, Batch.split count budget lines = .ok groups ∧
      Division (lineCost count) budget.toNat lines groups ∧
      ∀ others, Division (lineCost count) budget.toNat lines others →
        groups.length ≤ others.length := by
  refine ⟨packLines count budget.toNat lines, ?_, division_pack _ _ lines, ?_⟩
  · rw [Batch.split, if_neg (by omega)]
  · intro others hothers
    have hjoined : others.flatten = [] ++ [] ++ lines := hothers.joined
    exact length_pack_le rfl hjoined hothers.fits

/-- Four lines, the third of which is over the budget alone, make three groups and no fewer. -/
theorem split_fewest_of_four :
    1 ≤ (6 : Int) ∧
      Batch.split String.length 6 ["aa", "bb", "cccccc", "d"]
        = .ok [["aa", "bb"], ["cccccc"], ["d"]] ∧
      ∀ others, Division (lineCost String.length) 6 ["aa", "bb", "cccccc", "d"] others →
        3 ≤ others.length := by
  have hsplit : Batch.split String.length 6 ["aa", "bb", "cccccc", "d"]
      = .ok [["aa", "bb"], ["cccccc"], ["d"]] := by rfl
  obtain ⟨groups, hgroups, -, hfewest⟩ :=
    split_fewest String.length (by decide : (1 : Int) ≤ 6) ["aa", "bb", "cccccc", "d"]
  rw [hsplit] at hgroups
  obtain rfl := Except.ok.inj hgroups
  exact ⟨by decide, hsplit, hfewest⟩

end VmScan.Batching
