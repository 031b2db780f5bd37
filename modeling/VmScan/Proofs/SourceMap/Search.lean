import Mathlib.Tactic.SplitIfs
import VmScan.SourceMap.Basic

/-!
# Searching a line

A column of a line is looked up (`original_position_for`) among the columns of its segments, which
stand in the order of the mappings. A segment of its own is found in any order. For any other column
the row is halved, and halving ends between two neighbours of the row that the column lies between,
wherever these stand; that they are the nearest columns holds in an ascending row.

* `LastAt` — the last segment of a row with its column.
* `Found` — what halving and looking up a column come to, in any order.
* `Closest` — the last segment with the greatest column that is not to the right.

Results:
* `bisect_between`: halving ends between two neighbours.
* `found_segmentAt?`: a column has a segment of its own, or the one that halving ends behind.
* `Found.closest_iff`: exactly if no column lies between the two, the found segment is the closest.
* `Found.closest_of_ascending`: in an ascending row it is.
-/

namespace VmScan.SourceMap

variable {row : List Segment} {column : Int}

/-! ## What a search should find -/

/-- The segment is the last one of the row with its column. -/
def LastAt (row : List Segment) (segment : Segment) : Prop :=
  ∃ front back, row = front ++ segment :: back ∧ ∀ other ∈ back, other.column ≠ segment.column

/-- The segment that holds for the column: the last one with the greatest column that is not to the
right, if the row has any. -/
def Closest (row : List Segment) (column : Int) : Option Segment → Prop
  | none => ∀ other ∈ row, column < other.column
  | some segment => LastAt row segment ∧ segment.column ≤ column ∧
      ∀ other ∈ row, other.column ≤ column → other.column ≤ segment.column

/-- What is found for the column: a segment of its own, or the one of a column with the next one of
the row to the right, or nothing where the row starts to the right. -/
inductive Found (row : List Segment) (column : Int) : Option Segment → Prop where
  | own {segment : Segment} (hlast : LastAt row segment) (h : segment.column = column) :
      Found row column (some segment)
  | left {segment place : Segment} {front back : List Segment} (hlast : LastAt row segment)
      (hnone : ∀ other ∈ row, other.column ≠ column)
      (hplace : row = front ++ place :: back) (hcolumn : place.column = segment.column)
      (hleft : segment.column < column) (hright : ∀ next ∈ back.head?, column < next.column) :
      Found row column (some segment)
  | nothing (hnone : ∀ other ∈ row, other.column ≠ column)
      (hright : ∀ first ∈ row.head?, column < first.column) : Found row column none

theorem LastAt.mem {segment : Segment} (h : LastAt row segment) : segment ∈ row := by
  obtain ⟨front, back, rfl, -⟩ := h
  exact List.mem_append_right front List.mem_cons_self

theorem lastAt?_eq_some_iff {segment : Segment} :
    lastAt? row column = some segment ↔ LastAt row segment ∧ segment.column = column := by
  rw [lastAt?, List.getLast?_filter, List.find?_eq_some_iff_append]
  constructor
  · rintro ⟨hcolumn, back, front, hrow, hback⟩
    rw [decide_eq_true_eq] at hcolumn
    refine ⟨⟨front.reverse, back.reverse, ?_, fun other hother => ?_⟩, hcolumn⟩
    · rw [← row.reverse_reverse, hrow]
      simp
    · simpa [hcolumn] using hback other (List.mem_reverse.mp hother)
  · rintro ⟨⟨front, back, rfl, hback⟩, rfl⟩
    refine ⟨decide_eq_true rfl, back.reverse, front.reverse, by simp, fun other hother => ?_⟩
    simpa using hback other (List.mem_reverse.mp hother)

theorem lastAt?_eq_none_iff :
    lastAt? row column = none ↔ ∀ other ∈ row, other.column ≠ column := by
  rw [lastAt?, List.getLast?_eq_none_iff, List.filter_eq_nil_iff]
  simp

/-- A column of the row has a last segment. -/
theorem exists_lastAt {segment : Segment} (h : segment ∈ row) :
    ∃ last, lastAt? row segment.column = some last ∧ LastAt row last ∧
      last.column = segment.column := by
  cases hlast : lastAt? row segment.column with
  | none => exact absurd rfl (lastAt?_eq_none_iff.mp hlast segment h)
  | some last => exact ⟨last, rfl, lastAt?_eq_some_iff.mp hlast⟩

/-! ## Halving -/

/-- **Halving ends between two neighbours**: the one before is not above the target, and the one
behind is. Nothing is said about the others, for the row may be in any order. -/
theorem bisect_between (columns : Array Int) (target : Int) {low high : Nat} (h : low ≤ high) :
    low ≤ bisect columns target low high ∧ bisect columns target low high ≤ high ∧
      (low < bisect columns target low high →
        columns.getD (bisect columns target low high - 1) 0 ≤ target) ∧
      (bisect columns target low high < high →
        target < columns.getD (bisect columns target low high) 0) := by
  fun_induction bisect columns target low high with
  | case1 low high hlt middle hbefore ih =>
    obtain ⟨hlow, hhigh, hleft, hright⟩ := ih (by omega)
    refine ⟨hlow, by omega, hleft, fun hbelow => ?_⟩
    rcases Nat.lt_or_eq_of_le hhigh with hinside | hmiddle
    · exact hright hinside
    · rw [hmiddle]
      exact hbefore
  | case2 low high hlt middle hbehind ih =>
    obtain ⟨hlow, hhigh, hleft, hright⟩ := ih (by omega)
    refine ⟨by omega, hhigh, fun habove => ?_, hright⟩
    rcases Nat.lt_or_eq_of_le hlow with hinside | hmiddle
    · exact hleft hinside
    · rw [← hmiddle, Nat.add_sub_cancel]
      exact Int.not_lt.mp hbehind
  | case3 low high hge => exact ⟨Nat.le_refl low, h, fun hlt => by omega, fun hlt => by omega⟩

theorem getD_columns (row : List Segment) {i : Nat} (h : i < row.length) :
    (row.map (·.column)).toArray.getD i 0 = row[i].column := by
  simp [h]

/-- The search ends in front of the row, whose first column is to the right, or behind a segment
that is not to the right, with the next one to the right. -/
theorem columnBefore?_cases (row : List Segment) (column : Int) :
    (columnBefore? row column = none ∧ ∀ first ∈ row.head?, column < first.column) ∨
      ∃ front place back, row = front ++ place :: back ∧
        columnBefore? row column = some place.column ∧ place.column ≤ column ∧
        ∀ next ∈ back.head?, column < next.column := by
  unfold columnBefore?
  simp only [List.size_toArray, List.length_map]
  obtain ⟨-, hsize, hleft, hright⟩ :=
    bisect_between (row.map (·.column)).toArray column (Nat.zero_le row.length)
  generalize bisect (row.map (·.column)).toArray column 0 row.length = place at *
  have hnext : ∀ next ∈ (row.drop place).head?, column < next.column := by
    intro next hnext
    rw [List.head?_drop] at hnext
    obtain ⟨hlt, rfl⟩ := List.getElem?_eq_some_iff.mp hnext
    rw [← getD_columns row hlt]
    exact hright hlt
  cases place with
  | zero => exact Or.inl ⟨rfl, hnext⟩
  | succ i =>
    have hlt : i < row.length := hsize
    have hbefore := hleft (Nat.succ_pos i)
    rw [Nat.add_sub_cancel, getD_columns row hlt] at hbefore
    refine Or.inr ⟨row.take i, row[i], row.drop (i + 1), ?_, ?_, hbefore, hnext⟩
    · rw [← List.drop_eq_getElem_cons hlt, List.take_append_drop]
    · simp [hlt]

/-! ## Looking up a column -/

/-- **A column has a segment of its own, or the one that halving ends behind.** -/
theorem found_segmentAt? (row : List Segment) (column : Int) :
    Found row column (segmentAt? row column) := by
  unfold segmentAt?
  cases hown : lastAt? row column with
  | some segment =>
    obtain ⟨hlast, hcolumn⟩ := lastAt?_eq_some_iff.mp hown
    exact .own hlast hcolumn
  | none =>
    have hnone := lastAt?_eq_none_iff.mp hown
    rcases columnBefore?_cases row column with
      ⟨hbefore, hright⟩ | ⟨front, place, back, hrow, hbefore, hle, hright⟩
    · simp only [hbefore]
      exact .nothing hnone hright
    · have hmem : place ∈ row := hrow ▸ List.mem_append_right front List.mem_cons_self
      obtain ⟨segment, hsegment, hlast, hcolumn⟩ := exists_lastAt hmem
      have hne := hnone place hmem
      simp only [hbefore, Option.bind_some, hsegment]
      exact .left hlast hnone hrow hcolumn.symm (by omega) hright

/-- An ascending row that starts to the right is to the right. -/
theorem right_of_ascending (hascending : row.Pairwise fun a b => a.column ≤ b.column)
    (hright : ∀ first ∈ row.head?, column < first.column) :
    ∀ other ∈ row, column < other.column := by
  cases row with
  | nil => exact fun other hother => nomatch hother
  | cons first rest =>
    have hfirst : column < first.column := hright first rfl
    intro other hother
    rcases List.mem_cons.mp hother with rfl | hmem
    · exact hfirst
    · have := List.rel_of_pairwise_cons hascending hmem
      omega

namespace Found

variable {found : Option Segment}

/-- What is found is the last segment of its column, and not to the right. -/
theorem lastAt {segment : Segment} (h : Found row column (some segment)) :
    LastAt row segment ∧ segment.column ≤ column := by
  cases h with
  | own hlast h => exact ⟨hlast, Int.le_of_eq h⟩
  | left hlast hnone hplace hcolumn hleft hright => exact ⟨hlast, Int.le_of_lt hleft⟩

/-- **Exactly if no column lies between the two**, what is found is the closest segment. -/
theorem closest_iff (h : Found row column found) :
    Closest row column found ↔ ∀ other ∈ row, other.column ≤ column →
      ∃ segment, found = some segment ∧ other.column ≤ segment.column := by
  cases found with
  | none =>
    refine forall₂_congr fun other hother => ?_
    simp
  | some segment =>
    obtain ⟨hlast, hle⟩ := h.lastAt
    simp [Closest, hlast, hle]

/-- A segment of its own is the closest, in any order. -/
theorem closest_of_mem (h : Found row column found) {segment : Segment} (hmem : segment ∈ row)
    (hcolumn : segment.column = column) : Closest row column found := by
  cases h with
  | own hlast h => exact ⟨hlast, Int.le_of_eq h, fun other _ hother => h ▸ hother⟩
  | left hlast hnone => exact absurd hcolumn (hnone segment hmem)
  | nothing hnone => exact absurd hcolumn (hnone segment hmem)

/-- **In an ascending row** what is found is the closest segment. -/
theorem closest_of_ascending (h : Found row column found)
    (hascending : row.Pairwise fun a b => a.column ≤ b.column) : Closest row column found := by
  cases h with
  | own hlast h => exact ⟨hlast, Int.le_of_eq h, fun other _ hother => h ▸ hother⟩
  | @left segment place front back hlast hnone hplace hcolumn hleft hright =>
    refine ⟨hlast, Int.le_of_lt hleft, fun other hother hbefore => ?_⟩
    rw [← hcolumn]
    rw [hplace] at hother hascending
    obtain ⟨-, hbehind, hfront⟩ := List.pairwise_append.mp hascending
    rcases List.mem_append.mp hother with hmem | hmem
    · exact hfront other hmem place List.mem_cons_self
    · rcases List.mem_cons.mp hmem with rfl | hmem
      · exact Int.le_refl _
      · have := right_of_ascending (List.Pairwise.of_cons hbehind) hright other hmem
        omega
  | nothing hnone hright => exact right_of_ascending hascending hright

end Found

end VmScan.SourceMap
