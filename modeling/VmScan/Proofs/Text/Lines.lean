import Mathlib.Tactic.SplitIfs
import VmScan.Text.Lines

/-!
# Lines and their text determine each other

`Text.splitOn` is the library's `List.splitOn`, so the two directions of the round trip are the
library's, moved to strings.

Results:
* `unlines_lines`: joining the lines of a text gives the text.
* `lines_unlines`: splitting joined lines gives the lines, unless there are none or one of them
  holds a line feed.
* `unlines_map_unlines`: joining row by row is joining all at once.
* `length_lines`: a text has one line more than it has line feeds.
-/

namespace VmScan.Text

theorem splitOn_eq (separator : Char) (cs : List Char) :
    splitOn separator cs = cs.splitOn separator := by
  induction cs with
  | nil => rfl
  | cons c cs ih =>
    rw [splitOn, List.splitOn_cons_eq_if_modifyHead, ih]
    by_cases h : c = separator
    · rw [if_pos h, if_pos (beq_iff_eq.mpr h)]
    · rw [if_neg h, if_neg (by simpa using h)]
      cases hs : cs.splitOn separator with
      | nil => exact absurd hs (List.splitOn_ne_nil separator cs)
      | cons part parts => rfl

theorem lines_eq (text : String) :
    lines text = (text.toList.splitOn '\n').map String.ofList := by
  rw [lines, splitOn_eq]

theorem lines_empty : lines "" = [""] := rfl

theorem lines_ne_nil (text : String) : lines text ≠ [] := by
  rw [lines_eq, ne_eq, List.map_eq_nil_iff]
  exact List.splitOn_ne_nil '\n' text.toList

theorem toList_unlines (ls : List String) :
    (unlines ls).toList = ['\n'].intercalate (ls.map String.toList) := by
  rw [unlines, String.toList_intercalate]
  rfl

/-- Joining the lines of a text gives the text. -/
theorem unlines_lines (text : String) : unlines (lines text) = text := by
  rw [← String.toList_inj, toList_unlines, lines_eq, List.map_map]
  have hid : String.toList ∘ String.ofList = id := funext fun cs => String.toList_ofList
  rw [hid, List.map_id, List.intercalate_splitOn]

/-- Splitting joined lines gives the lines, unless there are none or one holds a line feed. -/
theorem lines_unlines {ls : List String} (hne : ls ≠ []) (h : ∀ line ∈ ls, '\n' ∉ line.toList) :
    lines (unlines ls) = ls := by
  have hparts : ∀ part ∈ ls.map String.toList, '\n' ∉ part := by
    intro part hpart
    obtain ⟨line, hline, rfl⟩ := List.mem_map.mp hpart
    exact h line hline
  rw [lines_eq, toList_unlines, List.splitOn_intercalate '\n' hparts
    (by rwa [ne_eq, List.map_eq_nil_iff]), List.map_map]
  have hid : String.ofList ∘ String.toList = id := funext fun line => String.ofList_toList
  rw [hid, List.map_id]

/-- Joining row by row is joining all at once. -/
theorem unlines_map_unlines {rows : List (List String)} (h : ∀ row ∈ rows, row ≠ []) :
    unlines (rows.map unlines) = unlines rows.flatten := by
  induction rows with
  | nil => rfl
  | cons row rows ih =>
    have hrow : row ≠ [] := h row List.mem_cons_self
    have hrows : ∀ other ∈ rows, other ≠ [] := fun other ho => h other (List.mem_cons_of_mem row ho)
    cases rows with
    | nil =>
      rw [List.map_singleton, List.flatten_cons, List.flatten_nil, List.append_nil]
      exact String.intercalate_singleton
    | cons next rows =>
      have hflat : (next :: rows).flatten ≠ [] := by
        rw [List.flatten_cons]
        exact List.append_ne_nil_of_left_ne_nil (hrows next List.mem_cons_self) _
      have hmap : (next :: rows).map unlines ≠ [] := List.cons_ne_nil _ _
      calc unlines (unlines row :: (next :: rows).map unlines)
          = unlines row ++ "\n" ++ unlines ((next :: rows).map unlines) :=
            String.intercalate_cons_of_ne_nil hmap
        _ = unlines row ++ "\n" ++ unlines (next :: rows).flatten := by rw [ih hrows]
        _ = unlines (row ++ (next :: rows).flatten) :=
            (String.intercalate_append_of_ne_nil hrow hflat).symm

theorem not_mem_of_mem_splitOn {separator : Char} :
    ∀ {cs part : List Char}, part ∈ splitOn separator cs → separator ∉ part
  | [], part, h => by
    rw [splitOn, List.mem_singleton] at h
    rw [h]
    exact List.not_mem_nil
  | c :: cs, part, h => by
    unfold splitOn at h
    split_ifs at h with hc
    · rcases List.mem_cons.mp h with rfl | h
      · exact List.not_mem_nil
      · exact not_mem_of_mem_splitOn h
    · cases hs : splitOn separator cs with
      | nil => exact absurd hs (splitOn_ne_nil separator cs)
      | cons first parts =>
        rw [hs] at h
        rcases List.mem_cons.mp h with rfl | h
        · rw [List.mem_cons, not_or]
          exact ⟨fun e => hc e.symm,
            not_mem_of_mem_splitOn (hs ▸ List.mem_cons_self : first ∈ splitOn separator cs)⟩
        · exact not_mem_of_mem_splitOn
            (hs ▸ List.mem_cons_of_mem first h : part ∈ splitOn separator cs)

/-- No line holds a line feed. -/
theorem not_mem_of_mem_lines {text line : String} (h : line ∈ lines text) : '\n' ∉ line.toList := by
  obtain ⟨part, hpart, rfl⟩ := List.mem_map.mp h
  rw [String.toList_ofList]
  exact not_mem_of_mem_splitOn hpart

theorem length_splitOn (separator : Char) (cs : List Char) :
    (splitOn separator cs).length = cs.count separator + 1 := by
  induction cs with
  | nil => rfl
  | cons c cs ih =>
    unfold splitOn
    split_ifs with hc
    · rw [List.length_cons, ih, hc, List.count_cons_self]
    · rw [List.count_cons_of_ne (by simpa using hc)]
      cases hs : splitOn separator cs with
      | nil => exact absurd hs (splitOn_ne_nil separator cs)
      | cons part parts =>
        rw [hs] at ih
        exact ih

/-- A text has one line more than it has line feeds. -/
theorem length_lines (text : String) : (lines text).length = text.toList.count '\n' + 1 := by
  rw [lines, List.length_map, length_splitOn]

end VmScan.Text
