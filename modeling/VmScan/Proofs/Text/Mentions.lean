import Mathlib.Data.List.Infix
import VmScan.Proofs.Text.Lines
import VmScan.Text.Search

/-!
# Where a word stands in a text

A word that stands in a text made of parts stands in one of them, or across the place where two of
them meet. It cannot stand across a character that it does not have.

* `isBorder` — a text that no word can stand across: it does not mention the word, and it starts and
  ends with characters that the word does not have.

Results:
* `occursIn_iff`: searching finds the rows of characters that stand in a text, and no others.
* `mentions_around_border`: what stands around a border mentions a word on one of its sides.
* `mentions_unlines`: what is made of lines mentions a word of one line in one of them.
-/

namespace VmScan.Text

/-- Searching finds what stands in the text. -/
theorem occursIn_iff {pattern text : List Char} :
    occursIn pattern text = true ↔ pattern <:+: text := by
  induction text with
  | nil => rw [occursIn, List.isEmpty_iff, List.infix_nil]
  | cons c cs ih =>
    rw [occursIn, Bool.or_eq_true, List.isPrefixOf_iff_prefix, ih, List.infix_cons_iff]

theorem mentions_iff {text word : String} :
    mentions text word = true ↔ word.toList <:+: text.toList :=
  occursIn_iff

theorem mentions_empty {word : String} (hword : word ≠ "") : mentions "" word = false := by
  rw [Bool.eq_false_iff, ne_eq, mentions_iff, String.toList_empty, List.infix_nil,
    String.toList_eq_nil_iff]
  exact hword

/-- A text with none of the characters of a word does not mention it. -/
theorem mentions_eq_false_of_forall {text word : String} (hword : word ≠ "")
    (h : ∀ c ∈ text.toList, c ∉ word.toList) : mentions text word = false := by
  rw [Bool.eq_false_iff, ne_eq, mentions_iff]
  intro hinside
  cases hchars : word.toList with
  | nil => exact hword (String.toList_eq_nil_iff.mp hchars)
  | cons c cs =>
    have hc : c ∈ word.toList := hchars ▸ List.mem_cons_self
    exact h c (hinside.subset hc) hc

/-! ## Two texts side by side -/

/-- Where two texts meet at a character that the word does not have, it stands in one of them. -/
theorem mentions_append {a b word : String}
    (h : (∀ c ∈ a.toList.getLast?, c ∉ word.toList) ∨ ∀ c ∈ b.toList.head?, c ∉ word.toList) :
    mentions (a ++ b) word = (mentions a word || mentions b word) := by
  rw [Bool.eq_iff_iff, Bool.or_eq_true, mentions_iff, mentions_iff, mentions_iff,
    String.toList_append, List.infix_append_iff, ← or_assoc]
  refine or_iff_left_of_imp ?_
  rintro ⟨front, behind, heq, hfront, hbehind⟩
  -- one of the two parts of the word is empty, since no character of it stands at the seam
  rcases List.eq_nil_or_concat front with rfl | ⟨others, last, hlast⟩
  · exact Or.inr (heq ▸ hbehind.isInfix)
  rcases behind with - | ⟨first, rest⟩
  · rw [List.append_nil] at heq
    exact Or.inl (heq ▸ hfront.isInfix)
  exfalso
  rw [List.concat_eq_append] at hlast
  rcases h with hseam | hseam
  · obtain ⟨before, hbefore⟩ := hfront
    refine hseam last ?_ (by simp [heq, hlast])
    rw [← hbefore, hlast, ← List.append_assoc, List.getLast?_concat]
    rfl
  · obtain ⟨after, hafter⟩ := hbehind
    refine hseam first ?_ (by simp [heq])
    rw [← hafter]
    rfl

/-! ## Borders -/

/-- Whether the text keeps what stands on its two sides apart: it does not mention the word, and it
starts and ends with characters that the word does not have. -/
def isBorder (word text : String) : Bool :=
  text.toList.head?.any (· ∉ word.toList) && text.toList.getLast?.any (· ∉ word.toList)
    && !mentions text word

section Borders

variable {word border : String} (h : isBorder word border = true)
include h

theorem mentions_border : mentions border word = false := by
  simp only [isBorder, Bool.and_eq_true, Bool.not_eq_true'] at h
  exact h.2

theorem head_of_isBorder : ∀ c ∈ border.toList.head?, c ∉ word.toList := by
  simp only [isBorder, Bool.and_eq_true, Option.any_eq_true, decide_eq_true_eq] at h
  obtain ⟨⟨⟨first, hfirst, hnot⟩, -⟩, -⟩ := h
  intro c hc
  rw [hfirst] at hc
  exact Option.mem_some.mp hc ▸ hnot

theorem last_of_isBorder : ∀ c ∈ border.toList.getLast?, c ∉ word.toList := by
  simp only [isBorder, Bool.and_eq_true, Option.any_eq_true, decide_eq_true_eq] at h
  obtain ⟨⟨-, ⟨last, hlast, hnot⟩⟩, -⟩ := h
  intro c hc
  rw [hlast] at hc
  exact Option.mem_some.mp hc ▸ hnot

theorem mentions_behind_border (text : String) :
    mentions (border ++ text) word = mentions text word := by
  rw [mentions_append (Or.inl (last_of_isBorder h)), mentions_border h, Bool.false_or]

theorem mentions_before_border (text : String) :
    mentions (text ++ border) word = mentions text word := by
  rw [mentions_append (Or.inr (head_of_isBorder h)), mentions_border h, Bool.or_false]

/-- What stands around a border mentions the word on one of its sides. -/
theorem mentions_around_border (before after : String) :
    mentions (before ++ border ++ after) word = (mentions before word || mentions after word) := by
  rw [String.append_assoc, mentions_append (Or.inr ?_), mentions_behind_border h]
  have hne : border.toList ≠ [] := by
    rintro hnil
    simp [isBorder, hnil] at h
  rw [String.toList_append, List.head?_append_of_ne_nil _ hne]
  exact head_of_isBorder h

end Borders

/-- **What is made of lines mentions a word of one line in one of them.** -/
theorem mentions_unlines {word : String} (hword : word ≠ "") (hlf : '\n' ∉ word.toList)
    (lines : List String) :
    mentions (unlines lines) word = lines.any (mentions · word) := by
  have hborder : isBorder word "\n" = true := by
    rw [isBorder, mentions_eq_false_of_forall hword (by simpa using hlf)]
    simpa using hlf
  induction lines with
  | nil => exact mentions_empty hword
  | cons line lines ih =>
    cases lines with
    | nil => rw [unlines, String.intercalate_singleton, List.any_cons, List.any_nil, Bool.or_false]
    | cons next lines =>
      have hrow : unlines (line :: next :: lines) = line ++ "\n" ++ unlines (next :: lines) :=
        String.intercalate_cons_of_ne_nil (List.cons_ne_nil next lines)
      rw [hrow, mentions_around_border hborder, ih]
      rfl

end VmScan.Text
