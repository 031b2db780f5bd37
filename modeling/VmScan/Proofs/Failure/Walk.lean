import Mathlib.Data.Fin.VecNotation
import Mathlib.Data.Fintype.Card
import Mathlib.Logic.Relation
import VmScan.Failure.Causes

/-!
# The walk along the causes

The walk of `_root_causes` takes down the fault that it is at and goes on with its cause, until
there is none or it is at a fault that it has taken down. Only the very same fault counts as taken
down, not another one that reads alike. The causes are given from outside and may go round in a
circle at once or behind a tail; but every pass takes down one more of finitely many faults.

* `CauseGraph.after` — the fault that so many causes lead to.
* `CauseGraph.LeadsTo` — following causes leads from one fault to another.
* `CauseGraph.FirstAt` — so many causes lead there, and no fewer do.
* `CauseGraph.Ends` — the walk, pass by pass to its end.
* `CauseGraph.Traced` — what holds wherever the walk is.

Results:
* `Traced.pass`: one pass keeps it.
* `Ends.traced`: so does a walk to its end.
* `Traced.getElem?_iff`: at the end every fault that is led to stands where it is first led to.
* `ends_reached_iff`: the walk from a fault ends, and only with `reached`.
* `failure_eq_wrap`: a fault whose causes do not lead back wraps the failure of its cause.
* `reached_by_first_reach`: all of it, for every chain.
-/

namespace VmScan.CauseGraph

variable {n : Nat} {graph : CauseGraph n} {i j : Fin n} {k : Nat}

/-! ## Following causes -/

/-- The fault that `k` causes lead to from `i`, if there are so many. -/
def after (graph : CauseGraph n) (i : Fin n) : Nat → Option (Fin n)
  | 0 => some i
  | k + 1 => (graph.after i k).bind graph.cause

/-- Following causes, none or many, leads from one fault to another. -/
def LeadsTo (graph : CauseGraph n) : Fin n → Fin n → Prop :=
  Relation.ReflTransGen fun i j => graph.cause i = some j

/-- `k` causes lead from `i` to `j`, and no fewer do. -/
structure FirstAt (graph : CauseGraph n) (i : Fin n) (k : Nat) (j : Fin n) : Prop where
  leads : graph.after i k = some j
  first : ∀ m < k, graph.after i m ≠ some j

theorem after_succ_of_eq (h : graph.after i k = some j) :
    graph.after i (k + 1) = graph.cause j := by
  rw [after, h, Option.bind_some]

theorem after_succ_of_cause (hcause : graph.cause i = some j) :
    ∀ k, graph.after i (k + 1) = graph.after j k
  | 0 => hcause
  | k + 1 => by rw [after, after_succ_of_cause hcause k, after]

theorem leadsTo_of_after (h : graph.after i k = some j) : graph.LeadsTo i j := by
  induction k generalizing j with
  | zero =>
    cases h
    exact .refl
  | succ k ih =>
    obtain ⟨before, hbefore, hcause⟩ := Option.bind_eq_some_iff.mp h
    exact (ih hbefore).tail hcause

/-! ## The walk -/

/-- With the faults `met` taken down and `next` to be looked at, the walk ends after so many passes
with the faults `result` taken down: at once where there is no next one or where it has been taken
down, and otherwise after the pass that takes it down and goes on with its cause. -/
inductive Ends (graph : CauseGraph n) :
    List (Fin n) → Option (Fin n) → Nat → List (Fin n) → Prop
  | uncaused {met} : Ends graph met none 0 met
  | again {met i} (hmet : i ∈ met) : Ends graph met (some i) 0 met
  | pass {met i passes result} (hnew : i ∉ met)
      (hrest : Ends graph (met ++ [i]) (graph.cause i) passes result) :
      Ends graph met (some i) (passes + 1) result

variable {met result : List (Fin n)} {next : Option (Fin n)} {passes : Nat}

/-- Every pass takes down one fault. -/
theorem Ends.length_eq (h : graph.Ends met next passes result) :
    result.length = met.length + passes := by
  induction h with
  | uncaused => rfl
  | again => rfl
  | pass hnew hrest ih =>
    rw [ih, List.length_append, List.length_singleton]
    omega

/-- A walk has one end. -/
theorem Ends.unique {passes' : Nat} {result' : List (Fin n)}
    (h : graph.Ends met next passes result) (h' : graph.Ends met next passes' result') :
    passes = passes' ∧ result = result' := by
  induction h generalizing passes' with
  | uncaused =>
    cases h'
    exact ⟨rfl, rfl⟩
  | again hmet =>
    cases h' with
    | again => exact ⟨rfl, rfl⟩
    | pass hnew => exact absurd hmet hnew
  | pass hnew hrest ih =>
    cases h' with
    | again hmet => exact absurd hmet hnew
    | pass _ hrest' =>
      obtain ⟨rfl, rfl⟩ := ih hrest'
      exact ⟨rfl, rfl⟩

/-- The walk ends with the faults that `reachedFrom` gives. -/
theorem exists_ends_reachedFrom (graph : CauseGraph n) (met : List (Fin n)) (i : Fin n) :
    ∃ passes, graph.Ends met (some i) passes (graph.reachedFrom met i) := by
  -- along the recursion, which ends by the number of faults that are not taken down
  fun_induction graph.reachedFrom met i with
  | case1 met i hmet => exact ⟨0, .again hmet⟩
  | case2 met i hnew hnone => exact ⟨1, .pass hnew (hnone ▸ .uncaused)⟩
  | case3 met i hnew j hcause ih =>
    obtain ⟨passes, hrest⟩ := ih
    exact ⟨passes + 1, .pass hnew (hcause ▸ hrest)⟩

/-! ## Where the walk is -/

/-- The walk from `i` has taken down the faults that fewer causes lead to, each once, and is at the
one that so many causes lead to. -/
structure Traced (graph : CauseGraph n) (i : Fin n) (met : List (Fin n))
    (next : Option (Fin n)) : Prop where
  getElem?_eq : ∀ k < met.length, met[k]? = graph.after i k
  next_eq : next = graph.after i met.length
  nodup : met.Nodup

theorem traced_start (graph : CauseGraph n) (i : Fin n) : graph.Traced i [] (some i) where
  getElem?_eq k hk := absurd hk (Nat.not_lt_zero k)
  next_eq := rfl
  nodup := .nil

/-- **One pass.** The fault that the walk is at is taken down if it has not been. -/
theorem Traced.pass (h : graph.Traced i met (some j)) (hnew : j ∉ met) :
    graph.Traced i (met ++ [j]) (graph.cause j) where
  getElem?_eq k hk := by
    rw [List.length_append, List.length_singleton] at hk
    obtain hlt | rfl := Nat.lt_succ_iff_lt_or_eq.mp hk
    · rw [List.getElem?_append_left hlt, h.getElem?_eq k hlt]
    · rw [List.getElem?_concat_length, h.next_eq]
  next_eq := by
    rw [List.length_append, List.length_singleton, after_succ_of_eq h.next_eq.symm]
  nodup := List.nodup_append_comm.mp (List.nodup_cons.mpr ⟨hnew, h.nodup⟩)

/-- **A walk to its end.** It ends where there is no next fault or where that has been taken
down. -/
theorem Ends.traced (hends : graph.Ends met next passes result) (h : graph.Traced i met next) :
    ∃ last, graph.Traced i result last ∧ ∀ j, last = some j → j ∈ result := by
  induction hends with
  | uncaused => exact ⟨none, h, fun j hj => nomatch hj⟩
  | again hmet => exact ⟨_, h, fun j hj => Option.some.inj hj ▸ hmet⟩
  | pass hnew _ ih => exact ih (h.pass hnew)

section End

variable (h : graph.Traced i met next)
include h

theorem Traced.after_of_getElem? (hk : met[k]? = some j) : graph.after i k = some j := by
  obtain ⟨hlt, -⟩ := List.getElem?_eq_some_iff.mp hk
  rw [← h.getElem?_eq k hlt, hk]

variable (hend : ∀ j, next = some j → j ∈ met)
include hend

/-- At the end, as many causes as there are faults taken down, or fewer, lead to one of these. -/
theorem Traced.mem_of_after (hk : k ≤ met.length) (hafter : graph.after i k = some j) :
    j ∈ met := by
  obtain hlt | rfl := Nat.lt_or_eq_of_le hk
  · exact List.mem_of_getElem? ((h.getElem?_eq k hlt).trans hafter)
  · exact hend j (h.next_eq.trans hafter)

theorem Traced.cause_mem {c : Fin n} (hmem : j ∈ met) (hcause : graph.cause j = some c) :
    c ∈ met := by
  obtain ⟨k, hk⟩ := List.mem_iff_getElem?.mp hmem
  obtain ⟨hlt, -⟩ := List.getElem?_eq_some_iff.mp hk
  have hafter : graph.after i (k + 1) = some c := by
    rw [after_succ_of_eq (h.after_of_getElem? hk), hcause]
  exact h.mem_of_after hend hlt hafter

/-- At the end the faults taken down are those that causes lead to. -/
theorem Traced.mem_iff : j ∈ met ↔ graph.LeadsTo i j := by
  constructor
  · intro hmem
    obtain ⟨k, hk⟩ := List.mem_iff_getElem?.mp hmem
    exact leadsTo_of_after (h.after_of_getElem? hk)
  · intro hleads
    induction hleads with
    | refl => exact h.mem_of_after hend (Nat.zero_le _) rfl
    | tail _ hcause ih => exact h.cause_mem hend ih hcause

/-- **Where a fault stands.** At the end each stands where causes first lead to it. -/
theorem Traced.getElem?_iff : met[k]? = some j ↔ graph.FirstAt i k j := by
  constructor
  · intro hk
    refine ⟨h.after_of_getElem? hk, fun m hm hafter => ?_⟩
    obtain ⟨hlt, -⟩ := List.getElem?_eq_some_iff.mp hk
    have hsame : met[m]? = met[k]? := by rw [h.getElem?_eq m (hm.trans hlt), hafter, hk]
    exact hm.ne ((List.getElem?_inj (hm.trans hlt) h.nodup).mp hsame)
  · intro hfirst
    obtain ⟨m, hm⟩ := List.mem_iff_getElem?.mp
      ((h.mem_iff hend).mpr (leadsTo_of_after hfirst.leads))
    obtain ⟨hlt, -⟩ := List.getElem?_eq_some_iff.mp hm
    -- the list cannot be too short for `k`: it holds the fault, and not before `k`
    have hle : k ≤ m := Nat.le_of_not_lt fun hmk =>
      hfirst.first m hmk (h.after_of_getElem? hm)
    rw [h.getElem?_eq k (hle.trans_lt hlt), hfirst.leads]

end End

/-! ## The faults met from one on -/

theorem traced_reached (graph : CauseGraph n) (i : Fin n) :
    ∃ last, graph.Traced i (graph.reached i) last ∧
      ∀ j, last = some j → j ∈ graph.reached i := by
  obtain ⟨passes, hends⟩ := graph.exists_ends_reachedFrom [] i
  exact hends.traced (graph.traced_start i)

/-- **The walk ends.** From every fault it ends after as many passes as there are faults met, with
these. -/
theorem ends_reached_iff : graph.Ends [] (some i) passes result ↔
    passes = (graph.reached i).length ∧ result = graph.reached i := by
  obtain ⟨passes', hends⟩ : ∃ passes', graph.Ends [] (some i) passes' (graph.reached i) :=
    graph.exists_ends_reachedFrom [] i
  have hlength : (graph.reached i).length = passes' := by
    rw [hends.length_eq, List.length_nil, Nat.zero_add]
  constructor
  · intro h
    rw [hlength]
    exact h.unique hends
  · rintro ⟨rfl, rfl⟩
    rwa [hlength]

theorem mem_reached_iff : j ∈ graph.reached i ↔ graph.LeadsTo i j := by
  obtain ⟨last, h, hend⟩ := graph.traced_reached i
  exact h.mem_iff hend

theorem nodup_reached (graph : CauseGraph n) (i : Fin n) : (graph.reached i).Nodup := by
  obtain ⟨last, h, -⟩ := graph.traced_reached i
  exact h.nodup

theorem getElem?_reached_iff : (graph.reached i)[k]? = some j ↔ graph.FirstAt i k j := by
  obtain ⟨last, h, hend⟩ := graph.traced_reached i
  exact h.getElem?_iff hend

theorem firstAt_zero_iff : graph.FirstAt i 0 j ↔ i = j :=
  ⟨fun h => Option.some.inj h.leads, fun h => ⟨congrArg some h, fun _ hm => nomatch hm⟩⟩

theorem head?_reached (graph : CauseGraph n) (i : Fin n) : (graph.reached i).head? = some i := by
  rw [List.head?_eq_getElem?, getElem?_reached_iff, firstAt_zero_iff]

/-- A failure holds the faults met. -/
theorem chain_failure (graph : CauseGraph n) (i : Fin n) :
    (graph.failure i).chain = (graph.reached i).map graph.fault := by
  obtain ⟨causes, hreached⟩ := List.head?_eq_some_iff.mp (graph.head?_reached i)
  rw [Failure.chain, failure, hreached]
  rfl

/-! ## A fault in front of its cause -/

section Wrap

variable (hcause : graph.cause i = some j) (hback : ¬ graph.LeadsTo j i)
include hcause hback

theorem firstAt_succ_iff {c : Fin n} : graph.FirstAt i (k + 1) c ↔ graph.FirstAt j k c := by
  constructor
  · intro h
    refine ⟨after_succ_of_cause hcause k ▸ h.leads, fun m hm hafter => ?_⟩
    exact h.first (m + 1) (Nat.succ_lt_succ hm) ((after_succ_of_cause hcause m).trans hafter)
  · intro h
    refine ⟨(after_succ_of_cause hcause k).trans h.leads, fun m hm hafter => ?_⟩
    cases m with
    | zero =>
      obtain rfl : i = c := Option.some.inj hafter
      exact hback (leadsTo_of_after h.leads)
    | succ m =>
      rw [after_succ_of_cause hcause m] at hafter
      exact h.first m (Nat.lt_of_succ_lt_succ hm) hafter

theorem reached_eq_cons : graph.reached i = i :: graph.reached j := by
  refine List.ext_getElem? fun k => Option.ext fun c => ?_
  cases k with
  | zero => rw [getElem?_reached_iff, firstAt_zero_iff, List.getElem?_cons_zero, Option.some_inj]
  | succ k =>
    rw [getElem?_reached_iff, firstAt_succ_iff hcause hback, List.getElem?_cons_succ,
      getElem?_reached_iff]

/-- **A fault that is raised from another.** Its failure wraps that of its cause, unless the causes
of that lead back to it. -/
theorem failure_eq_wrap : graph.failure i = (graph.failure j).wrap (graph.fault i) := by
  rw [Failure.wrap, chain_failure, failure, reached_eq_cons hcause hback]
  rfl

end Wrap

/-! ## Every chain -/

/-- **The walk ends on every shape of chain.** From every fault it ends, after as many passes as
there are faults met and never more than there are faults, and only with `reached`. That holds the
faults that following causes leads to and no others, each once, and each where causes first lead to
it; and the failure holds just these. -/
theorem reached_by_first_reach (graph : CauseGraph n) (i : Fin n) :
    (∀ passes result, graph.Ends [] (some i) passes result ↔
      passes = (graph.reached i).length ∧ result = graph.reached i) ∧
      (graph.reached i).length ≤ n ∧
      (∀ j, j ∈ graph.reached i ↔ graph.LeadsTo i j) ∧
      (graph.reached i).Nodup ∧
      (∀ k j, (graph.reached i)[k]? = some j ↔ graph.FirstAt i k j) ∧
      (graph.failure i).chain = (graph.reached i).map graph.fault := by
  have hlength : (graph.reached i).length ≤ n := by
    simpa using (graph.nodup_reached i).length_le_card
  exact ⟨fun _ _ => ends_reached_iff, hlength, fun _ => mem_reached_iff, graph.nodup_reached i,
    fun _ _ => getElem?_reached_iff, graph.chain_failure i⟩

/-- Of four faults that all read alike, the last leads back to the second. -/
example :
    let graph : CauseGraph 4 :=
      { fault := fun _ => { name := "E", text := "late" }
        cause := ![some 1, some 2, some 3, some 1] }
    graph.reached 0 = [0, 1, 2, 3] := by
  cbv

end VmScan.CauseGraph
