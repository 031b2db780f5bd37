import Mathlib.Tactic.SplitIfs
import VmScan.Batch

/-!
# Packing loses nothing

`Batching.pack` closes a group in two places: before an item that is over the budget alone, and
before an item that no longer fits. In both the group that is being gathered has to come out.

Results:
* `flatten_pack`: the groups joined are the items, behind what has been gathered.
* `nil_not_mem_pack`: no group is empty.
* `pack_map`: packing looks at costs only, so it commutes with a change of the items.
-/

namespace VmScan.Batching

variable {α β : Type}

theorem flush_cons (item : α) (items : List α) : flush (item :: items) = [item :: items] := rfl

theorem flatten_flush (pending : List α) : (flush pending).flatten = pending := by
  cases pending with
  | nil => rfl
  | cons item items => rw [flush_cons, List.flatten_singleton]

theorem nil_not_mem_flush (pending : List α) : [] ∉ flush pending := by
  cases pending with
  | nil => exact List.not_mem_nil
  | cons item items =>
    rw [flush_cons, List.mem_singleton]
    exact (List.cons_ne_nil item items).symm

theorem flush_map (f : α → β) (pending : List α) :
    flush (pending.map f) = (flush pending).map (List.map f) := by
  cases pending <;> rfl

/-- **Packing loses nothing**: the groups joined are the items, behind what has been gathered. -/
theorem flatten_pack (cost : α → Nat) (budget : Nat) (pending : List α) (used : Nat)
    (items : List α) : (pack cost budget pending used items).flatten = pending ++ items := by
  induction items generalizing pending used with
  | nil => rw [pack, flatten_flush, List.append_nil]
  | cons item items ih =>
    unfold pack
    split_ifs
    · -- over the budget alone
      rw [List.flatten_append, flatten_flush, List.flatten_cons, ih, List.nil_append,
        List.singleton_append]
    · -- no longer fits
      rw [List.flatten_cons, ih, List.singleton_append]
    · rw [ih, List.append_assoc, List.singleton_append]

/-- No group is empty. -/
theorem nil_not_mem_pack (cost : α → Nat) (budget : Nat) (pending : List α) (used : Nat)
    (items : List α) : [] ∉ pack cost budget pending used items := by
  induction items generalizing pending used with
  | nil => exact nil_not_mem_flush pending
  | cons item items ih =>
    unfold pack
    split_ifs with hover hfull
    · rw [List.mem_append, List.mem_cons, not_or, not_or]
      exact ⟨nil_not_mem_flush pending, (List.cons_ne_nil item []).symm, ih [] 0⟩
    · rw [List.mem_cons, not_or]
      rw [Bool.and_eq_true, Bool.not_eq_true', List.isEmpty_eq_false_iff] at hfull
      exact ⟨hfull.1.symm, ih [item] (cost item)⟩
    · exact ih (pending ++ [item]) (used + cost item)

/-- Packing looks at costs only. -/
theorem pack_map (cost : β → Nat) (budget : Nat) (f : α → β) (pending : List α) (used : Nat)
    (items : List α) :
    pack cost budget (pending.map f) used (items.map f)
      = (pack (cost ∘ f) budget pending used items).map (List.map f) := by
  induction items generalizing pending used with
  | nil => exact flush_map f pending
  | cons item items ih =>
    have hempty : (pending.map f).isEmpty = pending.isEmpty := List.isEmpty_map
    rw [List.map_cons, pack, pack, hempty, Function.comp_apply]
    split_ifs
    · rw [flush_map, List.map_append, List.map_cons, ← ih [] 0]
      rfl
    · rw [List.map_cons, ← ih [item] (cost (f item))]
      rfl
    · rw [← ih (pending ++ [item]) (used + cost (f item)), List.map_append]
      rfl

end VmScan.Batching
