import VmScan.Text.Case

/-!
# Lower case of texts side by side

Whether a sigma ends a word depends on the letters around it, so a text cannot be put in lower case
in two parts that meet anywhere. It can where a blank stands between them, which neither has a case
nor counts as a mark within a word.

Results:
* `endsWord_append_blank`: no letter behind a blank belongs to the word in front of it.
* `lower_append_blank`: the lower-case form of two texts with a blank between them.
* `lower_intercalate`: the lower-case form of any number of texts with blanks between them.
-/

namespace VmScan.Text

theorem not_ignorable_blank : caseIgnorable.contains ' ' = false := by decide +kernel

theorem not_cased_blank : casedLetters.contains ' ' = false := by decide

theorem lowerChar_blank : lowerChar ' ' = [' '] := by decide

/-- No letter behind a blank belongs to the word in front of it. -/
theorem endsWord_append_blank (cs rest : List Char) :
    endsWord (cs ++ ' ' :: rest) = endsWord cs := by
  induction cs with
  | nil =>
    simp only [endsWord, List.nil_append, List.dropWhile_cons, not_ignorable_blank,
      Bool.false_eq_true, if_false, List.head?_cons, Option.any_some, not_cased_blank,
      List.dropWhile_nil, List.head?_nil, Option.any_none]
  | cons c cs ih =>
    rw [List.cons_append, endsWord, endsWord, List.dropWhile_cons, List.dropWhile_cons]
    split
    · exact ih
    · rfl

/-- A blank ends the word in front of it, and starts no word itself. -/
theorem lowerFrom_append_blank (inWord : Bool) (cs rest : List Char) :
    lowerFrom inWord (cs ++ ' ' :: rest) = lowerFrom inWord cs ++ ' ' :: lowerFrom false rest := by
  induction cs generalizing inWord with
  | nil =>
    have hne : ' ' ≠ 'Σ' := by decide
    simp only [List.nil_append, lowerFrom, hne, decide_false, Bool.false_and, Bool.false_eq_true,
      if_false, not_ignorable_blank, not_cased_blank, lowerChar_blank, List.singleton_append]
  | cons c cs ih =>
    simp only [List.cons_append, lowerFrom, endsWord_append_blank, ih, List.append_assoc]

theorem lower_append_blank (a b : String) : lower (a ++ " " ++ b) = lower a ++ " " ++ lower b := by
  have hblank : (" " : String).toList = [' '] := rfl
  rw [← String.toList_inj]
  simp only [lower, String.toList_append, String.toList_ofList, hblank, List.append_assoc,
    List.singleton_append, lowerFrom_append_blank]

/-- Texts with blanks between them are put in lower case one by one. -/
theorem lower_intercalate (texts : List String) :
    lower (" ".intercalate texts) = " ".intercalate (texts.map lower) := by
  induction texts with
  | nil => rfl
  | cons text texts ih =>
    cases texts with
    | nil => rw [List.map_singleton, String.intercalate_singleton, String.intercalate_singleton]
    | cons next texts =>
      rw [String.intercalate_cons_cons, lower_append_blank, ih, List.map_cons, List.map_cons,
        List.map_cons, String.intercalate_cons_cons]

end VmScan.Text
