import Mathlib.Data.List.Basic
import Mathlib.Tactic.SplitIfs
import VmScan.Proofs.Json.Strings

/-!
# Written integers are read back

An integer is written as a sign and its decimal digits. It is read back digit for digit where the
text does not go on with something that a number could hold.

* `StartsNumber`, `EndsNumber` — the text starts with a number, and the text goes on with nothing
  that a number could hold.

Results:
* `asciiDigitsValue_toDigits`: the decimal digits of a number write it.
* `splitWhole_toDigits`: the digits of a number are split off, and nothing else.
* `reads_int`: a written integer of at most `maxDigits` digits.
-/

namespace VmScan.Json

open VmScan.Number VmScan.Text

/-- The text starts with a digit, perhaps behind a sign. -/
def StartsNumber (input : List Char) : Prop :=
  ∃ digit rest, isAsciiDigit digit = true ∧ (input = digit :: rest ∨ input = '-' :: digit :: rest)

/-- The text goes on with nothing that a number could hold. -/
def EndsNumber (rest : List Char) : Prop :=
  ∀ c ∈ rest.head?, isAsciiDigit c = false ∧ c ≠ '.' ∧ c ≠ 'e' ∧ c ≠ 'E'

/-! ## How a number starts -/

theorem StartsNumber.not_cons {c : Char} {cs : List Char} (hdigit : isAsciiDigit c = false)
    (hsign : c ≠ '-') : ¬ StartsNumber (c :: cs) := by
  rintro ⟨digit, rest, h, heq | heq⟩
  · rw [List.cons.injEq] at heq
    rw [← heq.1, hdigit] at h
    cases h
  · rw [List.cons.injEq] at heq
    exact hsign heq.1

theorem StartsNumber.not_signed {c : Char} {cs : List Char} (hdigit : isAsciiDigit c = false) :
    ¬ StartsNumber ('-' :: c :: cs) := by
  rintro ⟨digit, rest, h, heq | heq⟩
  · rw [List.cons.injEq] at heq
    rw [← heq.1] at h
    cases h
  · rw [List.cons.injEq, List.cons.injEq] at heq
    rw [← heq.2.1, hdigit] at h
    cases h

/-- A number starts with no blank and no mark of a byte order, and closes nothing. -/
theorem StartsNumber.exists_cons {input : List Char} (h : StartsNumber input) :
    ∃ c cs, input = c :: cs ∧ isBlank c = false ∧ c ≠ ']' ∧ c ≠ Char.ofNat 0xFEFF := by
  cases input with
  | nil =>
    obtain ⟨digit, rest, -, heq | heq⟩ := h <;> cases heq
  | cons c cs =>
    refine ⟨c, cs, rfl, ?_, ?_, ?_⟩
    · rw [Bool.eq_false_iff]
      intro hblank
      simp only [isBlank, Bool.or_eq_true, decide_eq_true_eq] at hblank
      obtain ((rfl | rfl) | rfl) | rfl := hblank <;>
        exact StartsNumber.not_cons rfl (by decide) h
    all_goals
      rintro rfl
      exact StartsNumber.not_cons rfl (by decide) h

/-! ## Digits -/

theorem isAsciiDigit_of_isDigit {c : Char} (h : c.isDigit = true) : isAsciiDigit c = true := by
  have hc : 48 ≤ c.toNat ∧ c.toNat ≤ 57 := Char.isDigit_iff_toNat.mp h
  rw [isAsciiDigit, Bool.and_eq_true, decide_eq_true_eq, decide_eq_true_eq]
  exact hc

theorem isAsciiDigit_of_mem_toDigits {n : Nat} {c : Char} (h : c ∈ Nat.toDigits 10 n) :
    isAsciiDigit c = true :=
  isAsciiDigit_of_isDigit (Nat.isDigit_of_mem_toDigits (by decide) (by decide) h)

theorem exists_digit_cons (n : Nat) :
    ∃ digit digits, Nat.toDigits 10 n = digit :: digits ∧ isAsciiDigit digit = true := by
  obtain ⟨digit, digits, hdigits⟩ :=
    List.exists_cons_of_ne_nil (Nat.toDigits_ne_nil (n := n) (b := 10))
  exact ⟨digit, digits, hdigits, isAsciiDigit_of_mem_toDigits (hdigits ▸ List.mem_cons_self)⟩

/-- The decimal digits of a number write it. -/
theorem asciiDigitsValue_toDigits (n : Nat) : asciiDigitsValue (Nat.toDigits 10 n) = n := by
  have hfold : asciiDigitsValue (Nat.toDigits 10 n)
      = Nat.ofDigitChars 10 (Nat.toDigits 10 n) 0 := by
    rw [Nat.ofDigitChars_eq_foldl]
    rfl
  rw [hfold, Nat.ofDigitChars_ten_toDigits]

/-- No number but zero starts with a zero. -/
theorem head?_toDigits_ne {n : Nat} (h : 0 < n) : (Nat.toDigits 10 n).head? ≠ some '0' := by
  induction n using Nat.strongRecOn with
  | ind n ih =>
    rcases Nat.lt_or_ge n 10 with hone | hmore
    · have hall : ∀ n < 10, 0 < n → Nat.digitChar n ≠ '0' := by decide
      rw [Nat.toDigits_of_lt_base hone, List.head?_singleton, ne_eq, Option.some.injEq]
      exact hall n hone h
    · rw [Nat.toDigits_of_base_le (by decide) hmore,
        List.head?_append_of_ne_nil _ Nat.toDigits_ne_nil]
      exact ih (n / 10) (by omega) (by omega)

/-! ## Parts of a number -/

section Parts

variable {rest : List Char}

theorem takeWhile_isAsciiDigit (h : EndsNumber rest) : rest.takeWhile isAsciiDigit = [] := by
  cases rest with
  | nil => rfl
  | cons c rest => rw [List.takeWhile_cons_of_neg (by simp [(h c rfl).1])]

theorem dropWhile_isAsciiDigit (h : EndsNumber rest) : rest.dropWhile isAsciiDigit = rest := by
  cases rest with
  | nil => rfl
  | cons c rest => rw [List.dropWhile_cons_of_neg (by simp [(h c rfl).1])]

/-- The digits of a number are split off, and nothing else. -/
theorem splitWhole_toDigits (n : Nat) (h : EndsNumber rest) :
    splitWhole (Nat.toDigits 10 n ++ rest) = (Nat.toDigits 10 n, rest) := by
  rcases Nat.eq_zero_or_pos n with rfl | hpos
  · rfl
  · obtain ⟨first, digits, hdigits, -⟩ := exists_digit_cons n
    have hzero : first ≠ '0' := by
      rintro rfl
      exact head?_toDigits_ne hpos (by rw [hdigits]; rfl)
    have hall : ∀ c ∈ first :: digits, isAsciiDigit c = true := fun c hc =>
      isAsciiDigit_of_mem_toDigits (hdigits ▸ hc)
    rw [hdigits, List.cons_append, splitWhole, if_neg hzero, ← List.cons_append,
      List.takeWhile_append_of_pos hall, List.dropWhile_append_of_pos hall,
      takeWhile_isAsciiDigit h, dropWhile_isAsciiDigit h, List.append_nil]

theorem splitFraction_of_ends (h : EndsNumber rest) : splitFraction rest = ([], rest) := by
  unfold splitFraction
  split
  · exact absurd rfl (h '.' rfl).2.1
  · rfl

theorem splitExponent_of_ends (h : EndsNumber rest) : splitExponent rest = (none, rest) := by
  cases rest with
  | nil => rfl
  | cons c rest =>
    have hc := h c rfl
    rw [splitExponent, if_neg]
    simp [hc.2.2.1, hc.2.2.2]

end Parts

/-! ## Integers -/

theorem toList_toString (n : Int) :
    (toString n).toList = (if n < 0 then ['-'] else []) ++ Nat.toDigits 10 n.natAbs := by
  rw [Int.toString_eq_repr, Int.repr_eq_if]
  rcases Int.lt_or_le n 0 with hneg | hpos
  · have habs : (-n).toNat = n.natAbs := by omega
    rw [if_neg (by omega), if_pos hneg, String.toList_append, Nat.toList_repr, habs]
    rfl
  · have habs : n.toNat = n.natAbs := by omega
    rw [if_pos hpos, if_neg (by omega), Nat.toList_repr, habs, List.nil_append]

theorem startsNumber_toString (n : Int) (rest : List Char) :
    StartsNumber ((toString n).toList ++ rest) := by
  obtain ⟨digit, digits, hdigits, hdigit⟩ := exists_digit_cons n.natAbs
  rw [toList_toString, hdigits]
  refine ⟨digit, digits ++ rest, hdigit, ?_⟩
  split_ifs
  · exact Or.inr rfl
  · exact Or.inl rfl

/-- The sign of a written integer, and the text behind the sign. -/
theorem sign_of_toString (n : Int) (rest : List Char) :
    decide (((toString n).toList ++ rest).head? = some '-') = decide (n < 0) ∧
      (if ((toString n).toList ++ rest).head? = some '-' then ((toString n).toList ++ rest).drop 1
        else (toString n).toList ++ rest) = Nat.toDigits 10 n.natAbs ++ rest := by
  rw [toList_toString]
  by_cases hneg : n < 0
  · rw [if_pos hneg]
    exact ⟨by rw [decide_eq_true hneg]; rfl, rfl⟩
  · obtain ⟨first, digits, hdigits, hfirst⟩ := exists_digit_cons n.natAbs
    have hsign : first ≠ '-' := by
      rintro rfl
      exact absurd hfirst (by decide)
    rw [if_neg hneg, hdigits, List.nil_append, List.cons_append, List.head?_cons]
    simp [hneg, hsign]

/-- **A written integer is read back**, where nothing behind it belongs to a number. -/
theorem reads_int {n : Int} (hdigits : (Nat.toDigits 10 n.natAbs).length ≤ maxDigits)
    {rest : List Char} (hrest : EndsNumber rest) :
    Reads readNumber ((toString n).toList ++ rest) (.int n) rest := by
  obtain ⟨hsign, hbody⟩ := sign_of_toString n rest
  have hvalue : Binary64.signed (decide (n < 0)) n.natAbs = n := by
    rw [Binary64.signed]
    split_ifs with hneg
    · rw [decide_eq_true_eq] at hneg
      omega
    · rw [decide_eq_true_eq] at hneg
      omega
  have hnumber : numberOf (decide (n < 0)) (Nat.toDigits 10 n.natAbs) [] none = .ok (.int n) := by
    have hwhole : (([] : List Char).isEmpty && (none : Option Int).isNone) = true := rfl
    rw [numberOf, if_pos hwhole, if_neg (by omega), asciiDigitsValue_toDigits, hvalue]
  unfold Reads readNumber
  simp only [hsign, hbody, splitWhole_toDigits _ hrest, splitFraction_of_ends hrest,
    splitExponent_of_ends hrest, hnumber, Nat.toDigits_ne_nil, dite_false]
  exact ⟨_, rfl, rfl, rfl⟩

end VmScan.Json
