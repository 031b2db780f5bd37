import VmScan.Failure.Basic

/-!
# Chains of causes

Faults that are held by what they point to: each has at most one cause, and a fault may be met
again on the way, so that the causes go round in a circle.

* `CauseGraph` — finitely many faults with their causes.
* `CauseGraph.reached` — the faults met from one of them on, each once, in the order in which
  they are met (`_root_causes`). It ends because every step meets one of the faults not met before.
* `CauseGraph.failure` — a fault with the causes met from it on.
-/

namespace VmScan

/-- Finitely many faults, each with at most one of them as its cause. -/
structure CauseGraph (n : Nat) where
  fault : Fin n → Fault
  cause : Fin n → Option (Fin n)

namespace CauseGraph

variable {n : Nat}

/-- The faults that have not been met. -/
def unmet (met : List (Fin n)) : List (Fin n) :=
  (List.finRange n).filter (· ∉ met)

theorem unmet_length_lt {met : List (Fin n)} {i : Fin n} (h : i ∉ met) :
    (unmet (met ++ [i])).length < (unmet met).length := by
  have hsub : unmet (met ++ [i]) = (unmet met).filter (· ≠ i) := by
    simp [unmet, List.filter_filter, and_comm]
  rw [hsub]
  refine Nat.lt_of_le_of_ne (List.length_filter_le _ _) fun heq => ?_
  have := List.length_filter_eq_length_iff.mp heq i (by simp [unmet, h])
  simp at this

/-- The faults met from `i` on, behind those met before. A fault was met before if it is the same
fault: `_root_causes` looks for it with `==`, and for faults, whose classes define no equality, that
is identity. Two faults that read alike are two. -/
def reachedFrom (graph : CauseGraph n) (met : List (Fin n)) (i : Fin n) : List (Fin n) :=
  if _met : i ∈ met then met
  else match graph.cause i with
    | none => met ++ [i]
    | some j => graph.reachedFrom (met ++ [i]) j
termination_by (unmet met).length
decreasing_by exact unmet_length_lt ‹_›

/-- The faults met from `i` on. -/
def reached (graph : CauseGraph n) (i : Fin n) : List (Fin n) :=
  graph.reachedFrom [] i

/-- The fault `i` with the causes met from it on. -/
def failure (graph : CauseGraph n) (i : Fin n) : Failure where
  fault := graph.fault i
  causes := ((graph.reached i).drop 1).map graph.fault

end CauseGraph

end VmScan
