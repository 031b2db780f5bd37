import Mathlib.Data.List.Basic
import Mathlib.Tactic.SplitIfs
import VmScan.Script.PatternGoal

/-!
# The tokens in front of a slash

Whether a slash opens a pattern is read off tokens at a distance from the last opening brace or
bracket. Where there was none, the distance is counted from in front of the first token, and so
round to the last ones. In a short history it leads outside.

* `Holds` — a place kept by a history is that of a token, or there is no such token.
* `Tracked` — the history keeps the places of an opening brace and bracket.
* `TooFew`, `Unanswered` — the rows of tokens for which the rule asks for a token that is not there.

Results:
* `valueAt?_eq_none_iff`: the places outside a history.
* `tracked_push`: every history is tracked, token by token.
* `afterBrace?_eq_none_iff`, `opensPattern?_eq_none_iff`: the rule has no answer exactly behind
  these rows.
-/

namespace VmScan.Script

/-- The place is that of the token, or minus one where there is no such token. -/
def Holds (values : List (Option String)) (token : String) (place : Int) : Prop :=
  place = -1 ∧ some token ∉ values ∨ ∃ i : Nat, place = i ∧ values[i]? = some (some token)

/-- The tokens in front of a closing brace are too few for the rule on a slash, if no opening brace
is among them: two or three, or a `function` and three others the first of which is no
`function`. -/
def TooFew (before : List (Option String)) : Prop :=
  before.length = 2 ∨ before.length = 3 ∨ ∃ second third fourth, second ≠ some "function" ∧
    before = [some "function", second, third, fourth]

/-- The rows of tokens for which the rule on a slash asks for a token that is not there: a closing
bracket alone, and a closing brace with too few tokens and no opening brace in front of it. -/
def Unanswered (values : List (Option String)) : Prop :=
  values = [some ")"] ∨
    ∃ before, values = before ++ [some "\x7d"] ∧ some "\x7b" ∉ before ∧ TooFew before

theorem unanswered_concat_iff (before : List (Option String)) (last : Option String) :
    Unanswered (before ++ [last]) ↔ last = some ")" ∧ before = [] ∨
      last = some "\x7d" ∧ some "\x7b" ∉ before ∧ TooFew before := by
  unfold Unanswered
  refine or_congr ?_ ?_
  · rw [← List.nil_append [some ")"], List.append_singleton_inj, and_comm]
  · constructor
    · rintro ⟨other, hrow, h⟩
      obtain ⟨rfl, rfl⟩ := List.append_singleton_inj.mp hrow
      exact ⟨rfl, h⟩
    · rintro ⟨rfl, h⟩
      exact ⟨before, rfl, h⟩

theorem Holds.snoc {values : List (Option String)} {token : String} {place : Int}
    (h : Holds values token place) (value : Option String) :
    Holds (values ++ [value]) token (if value = some token then values.length else place) := by
  split_ifs with hvalue
  · refine Or.inr ⟨values.length, rfl, ?_⟩
    rw [List.getElem?_concat_length, hvalue]
  · rcases h with ⟨rfl, hnone⟩ | ⟨i, rfl, hi⟩
    · refine Or.inl ⟨rfl, ?_⟩
      rw [List.mem_append, List.mem_singleton, not_or]
      exact ⟨hnone, Ne.symm hvalue⟩
    · exact Or.inr ⟨i, rfl, List.getElem?_append_left (List.getElem?_eq_some_iff.mp hi).1 ▸ hi⟩

namespace History

/-- The history keeps the places of the last opening brace and bracket. -/
structure Tracked (history : History) : Prop where
  brace : Holds history.values.toList "\x7b" history.lastBrace
  bracket : Holds history.values.toList "(" history.lastBracket

theorem tracked_empty : Tracked {} :=
  ⟨Or.inl ⟨rfl, List.not_mem_nil⟩, Or.inl ⟨rfl, List.not_mem_nil⟩⟩

/-- A history is tracked with one more token, too. -/
theorem Tracked.push {history : History} (h : history.Tracked) (value : Option String) :
    (history.push value).Tracked := by
  have hvalues : (history.push value).values.toList = history.values.toList ++ [value] :=
    Array.toList_push
  constructor
  · rw [hvalues]
    exact h.brace.snoc value
  · rw [hvalues]
    exact h.bracket.snoc value

/-- Every history that starts with no token is tracked. -/
theorem tracked_foldl_push (values : List (Option String)) {history : History}
    (h : history.Tracked) : (values.foldl push history).Tracked := by
  induction values generalizing history with
  | nil => exact h
  | cons value values ih => exact ih (h.push value)

theorem toList_values_foldl_push (values : List (Option String)) (history : History) :
    (values.foldl push history).values.toList = history.values.toList ++ values := by
  induction values generalizing history with
  | nil => exact (List.append_nil _).symm
  | cons value values ih =>
    rw [List.foldl_cons, ih, List.append_cons]
    exact congrArg (· ++ values) Array.toList_push

section Places

variable {history : History}

/-- There is no token at the places outside the history. -/
theorem valueAt?_eq_none_iff (place : Int) :
    history.valueAt? place = none ↔
      place < -(history.values.size : Int) ∨ (history.values.size : Int) ≤ place := by
  unfold valueAt?
  simp only
  split_ifs with hneg hout
  · exact iff_of_true rfl (by omega)
  · rw [Array.getElem?_eq_none_iff]
    omega
  · rw [Array.getElem?_eq_none_iff]
    omega

/-- Below zero, places are counted from the end. -/
theorem valueAt?_of_neg {place : Int} {i : Nat} (hneg : place < 0)
    (hi : place + history.values.size = i) :
    history.valueAt? place = history.values.toList[i]? := by
  unfold valueAt?
  simp only
  rw [if_pos hneg, hi, if_neg (by omega), Int.toNat_natCast, Array.getElem?_toList]

end Places

section Rule

variable {history : History} {before : List (Option String)}

/-- The rule behind a closing brace has no answer where one of the tokens for which it asks, each
under a condition on those before, is not there. -/
theorem afterBrace?_eq_none_iff_places :
    history.afterBrace? = none ↔ 3 ≤ history.values.size ∧
      (history.valueAt? (history.lastBrace - 3) = none ∨
        history.valueAt? (history.lastBrace - 3) = some (some "function") ∧
          history.valueAt? (history.lastBrace - 4) = none ∨
        history.valueAt? (history.lastBrace - 3) ≠ some (some "function") ∧
          4 ≤ history.values.size ∧ (history.valueAt? (history.lastBrace - 4) = none ∨
            history.valueAt? (history.lastBrace - 4) = some (some "function") ∧
              history.valueAt? (history.lastBrace - 5) = none)) := by
  unfold afterBrace?
  by_cases hshort : history.values.size < 3
  · rw [if_pos hshort]
    exact iff_of_false nofun fun h => absurd h.1 (by omega)
  rw [if_neg hshort]
  have hlong : 3 ≤ history.values.size := by omega
  cases history.valueAt? (history.lastBrace - 3) with
  | none => exact iff_of_true rfl ⟨hlong, Or.inl rfl⟩
  | some third =>
    by_cases hthird : third = some "function"
    · cases history.valueAt? (history.lastBrace - 4) <;> simp [hthird, hlong]
    · by_cases hfour : history.values.size < 4
      · simp [hthird, hfour, Nat.not_le.mpr hfour]
      · have hmany : 4 ≤ history.values.size := by omega
        cases history.valueAt? (history.lastBrace - 4) with
        | none => simp [hthird, hlong, hfour, hmany]
        | some fourth =>
          by_cases hfunction : fourth = some "function"
          · cases history.valueAt? (history.lastBrace - 5) <;>
              simp [hthird, hlong, hfour, hmany, hfunction]
          · simp [hthird, hfour, hfunction]

/-- The place of an opening brace is in front of the closing one. -/
theorem Tracked.lastBrace_eq (h : history.Tracked)
    (hvalues : history.values.toList = before ++ [some "\x7d"]) :
    history.lastBrace = -1 ∧ some "\x7b" ∉ before ∨
      some "\x7b" ∈ before ∧ ∃ i : Nat, history.lastBrace = i ∧ i < before.length ∧
        history.values.toList[i]? = some (some "\x7b") := by
  rcases h.brace with ⟨hplace, hnone⟩ | ⟨i, hplace, hi⟩
  · refine Or.inl ⟨hplace, fun hmem => hnone ?_⟩
    rw [hvalues]
    exact List.mem_append_left _ hmem
  · have hlt : i < before.length := by
      by_contra hge
      rw [hvalues, List.getElem?_append_right (Nat.not_lt.mp hge)] at hi
      have hlast := List.mem_of_getElem? hi
      rw [List.mem_singleton] at hlast
      exact absurd hlast (by decide)
    refine Or.inr ⟨?_, i, hplace, hlt, hi⟩
    rw [hvalues, List.getElem?_append_left hlt] at hi
    exact List.mem_of_getElem? hi

/-- With an opening brace among the tokens, all those for which the rule asks are there. -/
theorem afterBrace?_ne_none_of_brace {i : Nat} (hplace : history.lastBrace = i)
    (hlt : i + 1 < history.values.size)
    (hi : history.values.toList[i]? = some (some "\x7b")) : history.afterBrace? ≠ none := by
  -- places count round from the front only down to the brace itself
  have hround : ∀ back : Nat, i = 0 → history.values.size = back →
      history.valueAt? (i - back) = some (some "\x7b") := by
    rintro back rfl hsize
    rw [valueAt?_of_neg (i := 0) (by omega) (by omega), hi]
  have hother : some (some "\x7b") ≠ (some (some "function") : Option (Option String)) := by decide
  rw [ne_eq, afterBrace?_eq_none_iff_places, hplace, valueAt?_eq_none_iff, valueAt?_eq_none_iff,
    valueAt?_eq_none_iff]
  rintro ⟨hthree, hthird | ⟨hthird, hfourth⟩ | ⟨-, hfour, hfourth | ⟨hfourth, hfifth⟩⟩⟩
  · omega
  · exact hother ((hround 3 (by omega) (by omega)).symm.trans hthird)
  · omega
  · exact hother ((hround 4 (by omega) (by omega)).symm.trans hfourth)

/-- Without an opening brace the rule asks for the fourth, the fifth and the sixth token from the
end. -/
theorem without_brace_iff (hvalues : history.values.toList = before ++ [some "\x7d"]) :
    (3 ≤ history.values.size ∧
      (history.valueAt? (-1 - 3) = none ∨
        history.valueAt? (-1 - 3) = some (some "function") ∧ history.valueAt? (-1 - 4) = none ∨
        history.valueAt? (-1 - 3) ≠ some (some "function") ∧ 4 ≤ history.values.size ∧
          (history.valueAt? (-1 - 4) = none ∨ history.valueAt? (-1 - 4) = some (some "function") ∧
            history.valueAt? (-1 - 5) = none))) ↔ TooFew before := by
  have hsize : history.values.size = before.length + 1 := by
    rw [← Array.length_toList, hvalues, List.length_append, List.length_singleton]
  rw [valueAt?_eq_none_iff, valueAt?_eq_none_iff, valueAt?_eq_none_iff, hsize]
  unfold TooFew
  rcases before with _ | ⟨first, _ | ⟨second, _ | ⟨third, _ | ⟨fourth, _ | ⟨fifth, more⟩⟩⟩⟩⟩
  case nil | cons.nil => simp
  case cons.cons.nil => simp
  case cons.cons.cons.nil =>
    refine iff_of_true ⟨by simp, ?_⟩ (Or.inr (Or.inl rfl))
    by_cases hfunction : history.valueAt? (-1 - 3) = some (some "function")
    · exact Or.inr (Or.inl ⟨hfunction, by simp⟩)
    · exact Or.inr (Or.inr ⟨hfunction, by simp, by simp⟩)
  case cons.cons.cons.cons.nil =>
    have hsecond : history.valueAt? (-1 - 3) = some second := by
      rw [valueAt?_of_neg (i := 1) (by decide) (by rw [hsize]; rfl), hvalues]
      rfl
    have hfirst : history.valueAt? (-1 - 4) = some first := by
      rw [valueAt?_of_neg (i := 0) (by decide) (by rw [hsize]; rfl), hvalues]
      rfl
    rw [hsecond, hfirst]
    simp
  case cons.cons.cons.cons.cons =>
    simp
    omega

/-- Behind a closing brace, the rule has no answer in short histories without an opening one. -/
theorem Tracked.afterBrace?_eq_none_iff (h : history.Tracked)
    (hvalues : history.values.toList = before ++ [some "\x7d"]) :
    history.afterBrace? = none ↔ some "\x7b" ∉ before ∧ TooFew before := by
  have hsize : history.values.size = before.length + 1 := by
    rw [← Array.length_toList, hvalues, List.length_append, List.length_singleton]
  rcases h.lastBrace_eq hvalues with ⟨hplace, hnone⟩ | ⟨hsome, i, hplace, hlt, hi⟩
  · rw [afterBrace?_eq_none_iff_places, hplace, and_iff_right hnone]
    exact without_brace_iff hvalues
  · exact iff_of_false (afterBrace?_ne_none_of_brace hplace (by omega) hi) fun h => h.1 hsome

/-- A closing bracket alone has no token in front of the opening one. -/
theorem Tracked.beforeBracket_eq_none_iff (h : history.Tracked)
    (hvalues : history.values.toList = before ++ [some ")"]) :
    history.valueAt? (history.lastBracket - 1) = none ↔ before = [] := by
  have hsize : history.values.size = before.length + 1 := by
    rw [← Array.length_toList, hvalues, List.length_append, List.length_singleton]
  rw [valueAt?_eq_none_iff, hsize, ← List.length_eq_zero_iff]
  rcases h.bracket with ⟨hplace, -⟩ | ⟨i, hplace, hi⟩
  · omega
  · have hlt := (List.getElem?_eq_some_iff.mp hi).1
    rw [Array.length_toList, hsize] at hlt
    -- the opening bracket is not the closing one
    have hne : before ≠ [] := by
      rintro rfl
      obtain rfl : i = 0 := Nat.lt_one_iff.mp hlt
      rw [hvalues] at hi
      exact absurd hi (by decide)
    have hpos := List.length_pos_iff.mpr hne
    omega

/-- **The rule on a slash has no answer exactly behind the rows for which it asks for a token that
is not there.** -/
theorem Tracked.opensPattern?_eq_none_iff (h : history.Tracked) :
    history.opensPattern? = none ↔ Unanswered history.values.toList := by
  unfold opensPattern?
  rw [← Array.getLast?_toList]
  rcases List.eq_nil_or_concat history.values.toList with hvalues | ⟨before, last, hvalues⟩
  · rw [hvalues]
    refine iff_of_false nofun ?_
    rintro (hone | ⟨before, hmore, -⟩)
    · cases hone
    · exact absurd hmore.symm (List.append_ne_nil_of_right_ne_nil before (List.cons_ne_nil _ _))
  · rw [List.concat_eq_append] at hvalues
    rw [hvalues, List.getLast?_concat, unanswered_concat_iff]
    cases last with
    | none => exact iff_of_false nofun (by simp)
    | some token =>
      simp only [Option.some.injEq]
      split_ifs with hend hbracket hbrace
      · refine iff_of_false nofun ?_
        rw [Bool.or_eq_true, decide_eq_true_eq, decide_eq_true_eq] at hend
        rcases hend with rfl | rfl <;> simp
      · subst hbracket
        rw [Option.map_eq_none_iff, h.beforeBracket_eq_none_iff hvalues]
        simp
      · subst hbrace
        rw [h.afterBrace?_eq_none_iff hvalues]
        simp
      · exact iff_of_false nofun (by simp [hbracket, hbrace])

end Rule

end History

end VmScan.Script
