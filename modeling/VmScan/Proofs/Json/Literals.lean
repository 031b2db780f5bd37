import VmScan.Proofs.Json.Blanks
import VmScan.Proofs.Number.Nearest

/-!
# Number literals

Every number that JSON can write, with the value it has by its digits, and what it is read as: an
integer as itself, and a number with a fraction or an exponent as the nearest binary64 number.

* `Exponent`, `Literal` — the literals, part by part, and their texts.
* `Literal.rational` — the value by the digits.
* `Denotes` — what a literal stands for.

Results:
* `asciiDigitsValue_append`: digits written one behind the other.
* `splitWhole_literal`, `splitFraction_literal`, `splitExponent_literal`: each part is split off.
* `Literal.exists_value`: a literal is read as what it stands for, wherever it stands.
-/

namespace VmScan.Json

open VmScan.Number VmScan.Text

variable {runtime : Runtime}

/-! ## Literals -/

/-- The exponent of a literal: a mark, perhaps a sign, and digits. -/
structure Exponent where
  mark : Char
  sign : Option Char
  digits : List Char
  mark_eq : mark = 'e' ∨ mark = 'E'
  sign_eq : ∀ c ∈ sign, c = '-' ∨ c = '+'
  digits_ne : digits ≠ []
  isDigit : ∀ c ∈ digits, isAsciiDigit c = true

/-- The text of an exponent. -/
def Exponent.text (exponent : Exponent) : List Char :=
  exponent.mark :: (exponent.sign.toList ++ exponent.digits)

/-- The power of ten that an exponent writes. -/
def Exponent.value (exponent : Exponent) : Int :=
  Binary64.signed (exponent.sign = some '-') (asciiDigitsValue exponent.digits)

/-- A number as JSON writes it. The digits before the point start with a zero only if there are no
others; the digits behind it are none where there is no point. -/
structure Literal where
  negative : Bool
  whole : List Char
  fraction : List Char
  exponent : Option Exponent
  whole_ne : whole ≠ []
  whole_digit : ∀ c ∈ whole, isAsciiDigit c = true
  whole_zero : whole.head? = some '0' → whole = ['0']
  fraction_digit : ∀ c ∈ fraction, isAsciiDigit c = true

namespace Literal

variable (literal : Literal)

/-- The text of the digits behind the point, with the point. -/
def fractionText : List Char :=
  if literal.fraction = [] then [] else '.' :: literal.fraction

/-- The text of the exponent, if there is one. -/
def exponentText : List Char :=
  (literal.exponent.map Exponent.text).getD []

/-- The text of a literal. -/
def text : List Char :=
  (if literal.negative then ['-'] else [])
    ++ (literal.whole ++ (literal.fractionText ++ literal.exponentText))

/-- The literal has neither a fraction nor an exponent. -/
def IsInteger : Prop :=
  literal.fraction = [] ∧ literal.exponent = none

/-- The integer of the digits before the point. -/
def integer : Int :=
  Binary64.signed literal.negative (asciiDigitsValue literal.whole)

/-- The power of ten of a literal. -/
def power : Int :=
  (literal.exponent.map Exponent.value).getD 0

/-- The value of a literal by its digits. -/
def rational : ℚ :=
  Binary64.sign literal.negative * ((asciiDigitsValue literal.whole
    + asciiDigitsValue literal.fraction / 10 ^ literal.fraction.length) * 10 ^ literal.power)

end Literal

/-- What a literal stands for: its integer, or the number nearest to its value. -/
inductive Denotes (literal : Literal) : Value → Prop where
  | integer (h : literal.IsInteger) : Denotes literal (.int literal.integer)
  | rounded (h : ¬ literal.IsInteger) {x : Binary64}
      (hx : Binary64.Nearest literal.rational x) : Denotes literal (.float x)

/-! ## Digits -/

theorem asciiDigitsValue_append (front back : List Char) :
    asciiDigitsValue (front ++ back)
      = asciiDigitsValue front * 10 ^ back.length + asciiDigitsValue back := by
  have hfold : ∀ (digits : List Char) (n : Nat),
      digits.foldl (fun n c => 10 * n + asciiDigitValue c) n
        = n * 10 ^ digits.length + asciiDigitsValue digits := by
    intro digits
    induction digits with
    | nil => exact fun n => by simp [asciiDigitsValue]
    | cons c digits ih =>
      intro n
      rw [asciiDigitsValue, List.foldl_cons, List.foldl_cons, ih, ih, List.length_cons]
      ring
  rw [asciiDigitsValue, List.foldl_append, hfold]
  rfl

section Parts

variable {digits rest : List Char}

theorem takeWhile_digits_append (hdigits : ∀ c ∈ digits, isAsciiDigit c = true)
    (hrest : ∀ c ∈ rest.head?, isAsciiDigit c = false) :
    (digits ++ rest).takeWhile isAsciiDigit = digits := by
  rw [List.takeWhile_append_of_pos hdigits, (takeWhile_eq_nil_iff isAsciiDigit rest).mpr hrest,
    List.append_nil]

theorem dropWhile_digits_append (hdigits : ∀ c ∈ digits, isAsciiDigit c = true)
    (hrest : ∀ c ∈ rest.head?, isAsciiDigit c = false) :
    (digits ++ rest).dropWhile isAsciiDigit = rest := by
  have hsplit := List.takeWhile_append_dropWhile (p := isAsciiDigit) (l := digits ++ rest)
  rwa [takeWhile_digits_append hdigits hrest, List.append_cancel_left_eq] at hsplit

end Parts

/-! ## Reading a literal -/

section Reading

variable {rest : List Char}

/-- What goes on behind the digits of an exponent is no digit. -/
theorem EndsNumber.head (h : EndsNumber rest) : ∀ c ∈ rest.head?, isAsciiDigit c = false :=
  fun c hc => (h c hc).1

/-- A sign in front of digits is split off, and their first one is none. -/
theorem splitSign_exponent (exponent : Exponent) (rest : List Char) :
    splitSign (exponent.sign.toList ++ (exponent.digits ++ rest))
      = (decide (exponent.sign = some '-'), exponent.digits ++ rest) := by
  cases hsign : exponent.sign with
  | none =>
    obtain ⟨first, digits, hdigits⟩ := List.exists_cons_of_ne_nil exponent.digits_ne
    have hfirst := exponent.isDigit first (hdigits ▸ List.mem_cons_self)
    rw [Option.toList_none, List.nil_append, hdigits, List.cons_append, splitSign_of_ne]
    · rfl
    · intro c hc
      obtain rfl : first = c := Option.some.inj hc
      constructor
      all_goals
        rintro rfl
        exact absurd hfirst (by decide)
  | some c => rcases exponent.sign_eq c hsign with rfl | rfl <;> rfl

/-- The exponent of a literal is split off. -/
theorem splitExponent_literal (literal : Literal) (hrest : EndsNumber rest) :
    splitExponent (literal.exponentText ++ rest) = (literal.exponent.map Exponent.value, rest) := by
  unfold Literal.exponentText
  cases literal.exponent with
  | none => exact splitExponent_of_ends hrest
  | some exponent =>
    have hmark : (decide (exponent.mark = 'e') || decide (exponent.mark = 'E')) = true := by
      rw [Bool.or_eq_true, decide_eq_true_eq, decide_eq_true_eq]
      exact exponent.mark_eq
    have htext : exponent.text ++ rest
        = exponent.mark :: (exponent.sign.toList ++ (exponent.digits ++ rest)) := by
      rw [Exponent.text, List.cons_append, List.append_assoc]
    rw [Option.map_some, Option.getD_some, htext, splitExponent, if_pos hmark, splitSign_exponent]
    simp only [takeWhile_digits_append exponent.isDigit hrest.head,
      dropWhile_digits_append exponent.isDigit hrest.head, List.isEmpty_iff, exponent.digits_ne,
      if_false]
    rfl

theorem head?_exponentText (literal : Literal) (hrest : EndsNumber rest) :
    ∀ c ∈ (literal.exponentText ++ rest).head?, isAsciiDigit c = false ∧ c ≠ '.' := by
  unfold Literal.exponentText
  cases literal.exponent with
  | none => exact fun c hc => ⟨(hrest c hc).1, (hrest c hc).2.1⟩
  | some exponent =>
    intro c hc
    obtain rfl : exponent.mark = c := Option.some.inj hc
    rcases exponent.mark_eq with h | h <;> rw [h] <;> decide

/-- The fraction of a literal is split off. -/
theorem splitFraction_literal (literal : Literal) (hrest : EndsNumber rest) :
    splitFraction (literal.fractionText ++ (literal.exponentText ++ rest))
      = (literal.fraction, literal.exponentText ++ rest) := by
  have hhead := head?_exponentText literal hrest
  unfold Literal.fractionText
  split_ifs with hnone
  · rw [hnone, List.nil_append]
    unfold splitFraction
    split
    · next tail heq => exact absurd rfl (hhead '.' (by rw [heq]; rfl)).2
    · rfl
  · have hdigit : ∀ c ∈ (literal.exponentText ++ rest).head?, isAsciiDigit c = false := fun c hc =>
      (hhead c hc).1
    rw [List.cons_append, splitFraction]
    simp only [takeWhile_digits_append literal.fraction_digit hdigit,
      dropWhile_digits_append literal.fraction_digit hdigit, List.isEmpty_iff, hnone, if_false]

theorem head?_fractionText (literal : Literal) (hrest : EndsNumber rest) :
    ∀ c ∈ (literal.fractionText ++ (literal.exponentText ++ rest)).head?,
      isAsciiDigit c = false := by
  unfold Literal.fractionText
  split_ifs
  · exact fun c hc => (head?_exponentText literal hrest c hc).1
  · intro c hc
    obtain rfl : '.' = c := Option.some.inj hc
    decide

/-- The digits before the point are split off. -/
theorem splitWhole_literal (literal : Literal) (hrest : EndsNumber rest) :
    splitWhole (literal.whole ++ (literal.fractionText ++ (literal.exponentText ++ rest)))
      = (literal.whole, literal.fractionText ++ (literal.exponentText ++ rest)) := by
  by_cases hzero : literal.whole.head? = some '0'
  · rw [literal.whole_zero hzero]
    rfl
  · exact splitWhole_digits literal.whole_digit hzero literal.whole_ne
      ((takeWhile_eq_nil_iff isAsciiDigit _).mpr (head?_fractionText literal hrest))

/-- The value by the digits, with all of them before the point. -/
theorem Literal.rational_eq (literal : Literal) :
    literal.rational = Binary64.sign literal.negative
      * (asciiDigitsValue (literal.whole ++ literal.fraction)
        * 10 ^ (literal.power - literal.fraction.length)) := by
  rw [rational, asciiDigitsValue_append, zpow_sub₀ (by norm_num), zpow_natCast]
  push_cast
  field_simp

/-- The nearest number to a literal is found by its digits. -/
theorem Literal.nearest_rational (literal : Literal) :
    Binary64.Nearest literal.rational (Binary64.ofDecimal literal.negative
      (asciiDigitsValue (literal.whole ++ literal.fraction))
      (literal.power - literal.fraction.length)) := by
  rw [literal.rational_eq]
  exact Binary64.nearest_ofDecimal ..

/-- What the digits come to. Only the digits of an integer are counted. -/
theorem Literal.exists_numberOf (literal : Literal)
    (h : literal.IsInteger → literal.whole.length ≤ maxDigits) :
    ∃ value, numberOf literal.negative literal.whole literal.fraction
      (literal.exponent.map Exponent.value) = .ok value ∧ Denotes literal value := by
  by_cases hinteger : literal.IsInteger
  · obtain ⟨hfraction, hexponent⟩ := id hinteger
    have hnone : (([] : List Char).isEmpty && (none.map Exponent.value).isNone) = true := rfl
    refine ⟨_, ?_, .integer hinteger⟩
    rw [numberOf, hfraction, hexponent, if_pos hnone, if_neg (Nat.not_lt.mpr (h hinteger))]
    rfl
  · have hother : ¬ (literal.fraction.isEmpty &&
        (literal.exponent.map Exponent.value).isNone) = true := by
      rw [Bool.and_eq_true, List.isEmpty_iff, Option.isNone_map, Option.isNone_iff_eq_none]
      exact hinteger
    refine ⟨_, ?_, .rounded hinteger literal.nearest_rational⟩
    rw [numberOf, if_neg hother]
    rfl

theorem Literal.startsNumber (literal : Literal) (rest : List Char) :
    StartsNumber (literal.text ++ rest) := by
  obtain ⟨first, digits, hdigits⟩ := List.exists_cons_of_ne_nil literal.whole_ne
  refine ⟨first, digits ++ (literal.fractionText ++ literal.exponentText) ++ rest,
    literal.whole_digit first (hdigits ▸ List.mem_cons_self), ?_⟩
  rw [text, hdigits]
  cases literal.negative
  · exact Or.inl rfl
  · exact Or.inr rfl

/-- **A literal is read as what it stands for**, wherever it stands. -/
theorem Literal.exists_value (literal : Literal)
    (h : literal.IsInteger → literal.whole.length ≤ maxDigits) :
    ∃ value, Denotes literal value ∧ ∀ (runtime : Runtime) depth rest, EndsNumber rest →
      Reads (readValue runtime depth) (literal.text ++ rest) value rest := by
  obtain ⟨value, hnumber, hdenotes⟩ := literal.exists_numberOf h
  refine ⟨value, hdenotes, fun runtime depth rest hrest => ?_⟩
  obtain ⟨inner, hinner⟩ := exists_readValue_eq runtime depth
  rw [hinner]
  refine Reads.number (literal.startsNumber rest) ?_
  have htext : literal.text ++ rest = (if literal.negative then ['-'] else [])
      ++ (literal.whole ++ (literal.fractionText ++ (literal.exponentText ++ rest))) := by
    simp only [text, List.append_assoc]
  have hminus : (literal.whole ++ (literal.fractionText ++ (literal.exponentText ++ rest))).head?
      ≠ some '-' := by
    obtain ⟨first, digits, hdigits⟩ := List.exists_cons_of_ne_nil literal.whole_ne
    rw [hdigits, List.cons_append, List.head?_cons, ne_eq, Option.some.injEq]
    rintro rfl
    exact absurd (literal.whole_digit '-' (hdigits ▸ List.mem_cons_self)) (by decide)
  obtain ⟨hnegative, hbody⟩ := sign_append literal.negative hminus
  rw [htext]
  unfold Reads readNumber
  simp only [hnegative, hbody, splitWhole_literal literal hrest, splitFraction_literal literal hrest,
    splitExponent_literal literal hrest, hnumber, literal.whole_ne, dite_false]
  exact ⟨_, rfl, rfl, rfl⟩

/-- A literal is a text of its own. -/
theorem Literal.decode_text (literal : Literal) {value : Value}
    (h : Reads (readValue runtime runtime.depth) (literal.text ++ []) value []) :
    decode runtime literal.text = .ok value := by
  rw [List.append_nil] at h
  obtain ⟨c, cs, hcons, hvisible⟩ := h.visible
  refine decode_eq_ok_iff.mpr ⟨?_, [], ?_, rfl⟩
  · rw [hcons, List.head?_cons, ne_eq, Option.some.injEq]
    exact hvisible.ne_byteOrderMark
  · rw [hcons, skipBlank_of_not_blank hvisible.not_blank, ← hcons]
    exact h

end Reading

end VmScan.Json
