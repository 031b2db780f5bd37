import VmScan.Proofs.Json.Numbers
import VmScan.Proofs.Listing.Written

/-!
# Decimal literals

An integer that stands in running text may have blanks around it, a sign, digits of any script and
underscores. The plain form, a sign and decimal digits, is the one that integers are written in.

Results:
* `groupedDigits?_of_isDigit`: a row of digits is one group.
* `ofText_toString`: a written integer is read back, unless it has too many digits.
-/

namespace VmScan

theorem Text.strip_of_not_blank {cs : List Char} (h : ∀ c ∈ cs, isBlank c = false) :
    strip cs = cs := by
  have hdrop : ∀ {cs : List Char}, (∀ c ∈ cs, isBlank c = false) → cs.dropWhile isBlank = cs := by
    intro cs h
    cases cs with
    | nil => rfl
    | cons c cs => rw [List.dropWhile_cons_of_neg (by simp [h c])]
  rw [strip, hdrop h, dropTrailingBlanks, hdrop fun c hc => h c (List.mem_reverse.mp hc),
    List.reverse_reverse]

namespace Number

theorem groupedDigits?_of_isDigit : ∀ {digits : List Char}, digits ≠ [] →
    (∀ c ∈ digits, c.isDigit = true) → groupedDigits? digits = some digits
  | [], hne, _ => absurd rfl hne
  | [c], _, h => by
    have hc := Text.isDecimalDigit_of_isDigit (h c List.mem_cons_self)
    simp only [groupedDigits?, hc, if_true]
  | c :: d :: rest, _, h => by
    have hc := Text.isDecimalDigit_of_isDigit (h c List.mem_cons_self)
    have hd : d ≠ '_' := by
      rintro rfl
      exact absurd (h '_' (by simp)) (by decide)
    have hrest := groupedDigits?_of_isDigit (List.cons_ne_nil d rest) fun c hc =>
      h c (List.mem_cons_of_mem _ hc)
    simp [groupedDigits?, hc, hd, hrest]

theorem isDigit_of_mem_toDigits {n : Nat} {c : Char} (h : c ∈ Nat.toDigits 10 n) :
    c.isDigit = true :=
  Nat.isDigit_of_mem_toDigits (by decide) (by decide) h

theorem not_blank_of_mem_toString {n : Int} {c : Char} (h : c ∈ (toString n).toList) :
    Text.isBlank c = false := by
  rcases eq_minus_or_isDigit_of_mem h with rfl | hdigit
  · decide
  · exact Text.isBlank_of_isDigit hdigit

theorem splitSign_toString (n : Int) :
    splitSign (toString n).toList = (decide (n < 0), Nat.toDigits 10 n.natAbs) := by
  rw [Json.toList_toString]
  by_cases hneg : n < 0
  · rw [if_pos hneg, decide_eq_true hneg]
    rfl
  · obtain ⟨first, digits, hdigits, hfirst⟩ := Json.exists_digit_cons n.natAbs
    have hminus : first ≠ '-' := by
      rintro rfl
      exact absurd hfirst (by decide)
    have hplus : first ≠ '+' := by
      rintro rfl
      exact absurd hfirst (by decide)
    rw [if_neg hneg, decide_eq_false hneg, hdigits, List.nil_append]
    simp [splitSign, hminus, hplus]

/-- A written integer of at most `maxDigits` digits is read back. -/
theorem ofText_toString {n : Int} (h : (Nat.toDigits 10 n.natAbs).length ≤ maxDigits) :
    ofText (toString n).toList = .ok n := by
  have hgroup : groupedDigits? (Nat.toDigits 10 n.natAbs) = some (Nat.toDigits 10 n.natAbs) :=
    groupedDigits?_of_isDigit Nat.toDigits_ne_nil fun c hc => isDigit_of_mem_toDigits hc
  have hvalue : ofDigits (Nat.toDigits 10 n.natAbs) = .ok n.natAbs := by
    rw [ofDigits, if_neg (by omega), digitsValue_toDigits]
  have hsigned : (if decide (n < 0) = true then -(n.natAbs : Int) else n.natAbs) = n := by
    by_cases hneg : n < 0
    · rw [decide_eq_true hneg, if_pos rfl]
      omega
    · rw [decide_eq_false hneg, if_neg Bool.false_ne_true]
      omega
  unfold ofText
  rw [Text.strip_of_not_blank fun c hc => not_blank_of_mem_toString hc, splitSign_toString]
  simp only [hgroup, hvalue]
  exact congrArg Except.ok hsigned

end Number

end VmScan
