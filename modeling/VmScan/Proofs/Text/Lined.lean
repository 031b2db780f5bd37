import VmScan.Proofs.Text.Lines

/-!
# Characters and the lines on which they stand

* `lined` — the characters of a text, each with the number of line feeds in front of it.
* `onLine` — those that stand on one line.

Results:
* `lined_append`: a text behind another starts on the line on which the other ends.
* `line_bounds_of_mem_lined`: the lines of a text reach from its first to its last.
* `exists_mem_lined`: a text that ends with no line feed has a character on each of its lines.
* `getElem?_lines_congr`: the characters on a line, with its line feed, determine its text.
-/

namespace VmScan.Text

/-- The characters of a text, each with the number of line feeds in front of it, `line` of them
in front of the first. -/
def lined (line : Nat) : List Char → List (Char × Nat)
  | [] => []
  | c :: cs => (c, line) :: lined (if c = '\n' then line + 1 else line) cs

/-- The characters that stand on a line. -/
def onLine (line : Nat) (cs : List (Char × Nat)) : List (Char × Nat) :=
  cs.filter fun c => c.2 = line

theorem count_cons_lf (c : Char) (cs : List Char) :
    (c :: cs).count '\n' = cs.count '\n' + if c = '\n' then 1 else 0 := by
  rw [List.count_cons]
  by_cases h : c = '\n'
  · rw [if_pos (beq_iff_eq.mpr h), if_pos h]
  · rw [if_neg (by simpa using h), if_neg h]

theorem next_line (c : Char) (line : Nat) :
    (if c = '\n' then line + 1 else line) = line + if c = '\n' then 1 else 0 := by
  split_ifs <;> rfl

/-- A text behind another starts on the line on which the other ends. -/
theorem lined_append (line : Nat) (a b : List Char) :
    lined line (a ++ b) = lined line a ++ lined (line + a.count '\n') b := by
  induction a generalizing line with
  | nil => rfl
  | cons c a ih =>
    rw [List.cons_append, lined, lined, ih, List.cons_append, next_line, count_cons_lf,
      Nat.add_assoc, Nat.add_comm (a.count '\n')]

theorem length_lined (line : Nat) (cs : List Char) : (lined line cs).length = cs.length := by
  induction cs generalizing line with
  | nil => rfl
  | cons c cs ih => rw [lined, List.length_cons, List.length_cons, ih]

theorem take_lined (line : Nat) (cs : List Char) (i : Nat) :
    (lined line cs).take i = lined line (cs.take i) := by
  induction cs generalizing line i with
  | nil => rw [lined, List.take_nil, List.take_nil, lined]
  | cons c cs ih =>
    cases i with
    | zero => rfl
    | succ i => rw [lined, List.take_succ_cons, List.take_succ_cons, lined, ih]

theorem drop_lined (line : Nat) (cs : List Char) (i : Nat) :
    (lined line cs).drop i = lined (line + (cs.take i).count '\n') (cs.drop i) := by
  have happend := lined_append line (cs.take i) (cs.drop i)
  rw [List.take_append_drop, ← take_lined] at happend
  exact List.append_cancel_left ((List.take_append_drop i _).trans happend)

/-- The lines of a text reach from its first to its last. -/
theorem line_bounds_of_mem_lined {line : Nat} {cs : List Char} {x : Char × Nat}
    (h : x ∈ lined line cs) : line ≤ x.2 ∧ x.2 ≤ line + cs.count '\n' := by
  induction cs generalizing line with
  | nil => exact absurd h List.not_mem_nil
  | cons c cs ih =>
    rw [lined, List.mem_cons, next_line] at h
    rw [count_cons_lf]
    rcases h with rfl | h
    · exact ⟨Nat.le_refl _, Nat.le_add_right _ _⟩
    · have := ih h
      omega

/-- A text that ends with no line feed has a character on each of its lines. -/
theorem exists_mem_lined (line : Nat) {k : Nat} {cs : List Char} (hne : cs ≠ [])
    (hlast : cs.getLast? ≠ some '\n') (hle : line ≤ k) (hge : k ≤ line + cs.count '\n') :
    ∃ x ∈ lined line cs, x.2 = k := by
  induction cs generalizing line with
  | nil => exact absurd rfl hne
  | cons c cs ih =>
    rcases Nat.eq_or_lt_of_le hle with rfl | hlt
    · exact ⟨(c, line), List.mem_cons_self, rfl⟩
    · have hcs : cs ≠ [] := by
        rintro rfl
        rw [count_cons_lf, List.count_nil] at hge
        split_ifs at hge with hc
        · exact hlast (by rw [hc]; rfl)
        · omega
      rw [List.getLast?_cons_of_ne_nil hcs] at hlast
      rw [count_cons_lf] at hge
      obtain ⟨x, hx, rfl⟩ := ih (if c = '\n' then line + 1 else line) hcs hlast
        (by rw [next_line]; split_ifs <;> omega) (by rw [next_line]; omega)
      exact ⟨x, List.mem_cons_of_mem _ hx, rfl⟩

theorem onLine_append (line : Nat) (a b : List (Char × Nat)) :
    onLine line (a ++ b) = onLine line a ++ onLine line b :=
  List.filter_append a b

theorem onLine_cons_self (line : Nat) (c : Char) (cs : List (Char × Nat)) :
    onLine line ((c, line) :: cs) = (c, line) :: onLine line cs :=
  List.filter_cons_of_pos (decide_eq_true rfl)

theorem onLine_cons_of_ne {line k : Nat} (h : line ≠ k) (c : Char) (cs : List (Char × Nat)) :
    onLine k ((c, line) :: cs) = onLine k cs :=
  List.filter_cons_of_neg (by simpa using h)

theorem onLine_eq_nil_of_lt {line k : Nat} {cs : List Char} (h : k < line) :
    onLine k (lined line cs) = [] := by
  refine List.filter_eq_nil_iff.mpr fun x hx => ?_
  have := (line_bounds_of_mem_lined hx).1
  simp only [decide_eq_true_eq]
  omega

theorem onLine_eq_nil_of_gt {line k : Nat} {cs : List Char} (h : line + cs.count '\n' < k) :
    onLine k (lined line cs) = [] := by
  refine List.filter_eq_nil_iff.mpr fun x hx => ?_
  have := (line_bounds_of_mem_lined hx).2
  simp only [decide_eq_true_eq]
  omega

/-- The text of a line: its characters without the line feed. -/
def rowText (cs : List (Char × Nat)) : List Char :=
  (cs.filter fun c => c.1 ≠ '\n').map (·.1)

theorem rowText_cons_of_ne {c : Char} (h : c ≠ '\n') (line : Nat) (cs : List (Char × Nat)) :
    rowText ((c, line) :: cs) = c :: rowText cs := by
  rw [rowText, List.filter_cons_of_pos (by simpa using h), List.map_cons, rowText]

/-- The rows of a text are the texts of its lines. -/
theorem getElem?_splitOn_lf (line : Nat) (cs : List Char) (k : Nat) :
    (splitOn '\n' cs)[k]? =
      if k ≤ cs.count '\n' then some (rowText (onLine (line + k) (lined line cs))) else none := by
  induction cs generalizing line k with
  | nil => cases k <;> rfl
  | cons c cs ih =>
    rw [splitOn, lined, count_cons_lf]
    by_cases hc : c = '\n'
    · subst hc
      rw [if_pos rfl, if_pos rfl, if_pos rfl]
      cases k with
      | zero =>
        rw [Nat.add_zero line, onLine_cons_self, onLine_eq_nil_of_lt (Nat.lt_succ_self line)]
        rfl
      | succ k =>
        rw [List.getElem?_cons_succ, ih (line + 1), onLine_cons_of_ne (by omega),
          Nat.add_right_comm, Nat.add_assoc]
        simp only [Nat.add_le_add_iff_right]
    · rw [if_neg hc, if_neg hc, if_neg hc]
      cases hs : splitOn '\n' cs with
      | nil => exact absurd hs (splitOn_ne_nil '\n' cs)
      | cons part parts =>
        cases k with
        | zero =>
          have hpart := ih line 0
          rw [hs, if_pos (Nat.zero_le _), List.getElem?_cons_zero, Option.some.injEq] at hpart
          rw [if_pos (Nat.zero_le _), List.getElem?_cons_zero, hpart, Nat.add_zero line,
            onLine_cons_self, rowText_cons_of_ne hc]
        | succ k =>
          have hparts := ih line (k + 1)
          rw [hs, List.getElem?_cons_succ] at hparts
          rw [List.getElem?_cons_succ, hparts, onLine_cons_of_ne (by omega),
            Nat.add_zero (cs.count '\n')]

/-- The characters on a line, with its line feed, determine its text. -/
theorem getElem?_lines_congr {a b : String} (hcount : a.toList.count '\n' = b.toList.count '\n')
    {k : Nat} (h : onLine k (lined 0 a.toList) = onLine k (lined 0 b.toList)) :
    (lines a)[k]? = (lines b)[k]? := by
  rw [lines, lines, List.getElem?_map, List.getElem?_map, getElem?_splitOn_lf 0,
    getElem?_splitOn_lf 0, hcount, Nat.zero_add, h]

end VmScan.Text
