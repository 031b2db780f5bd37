import VmScan.Proofs.Detection.Field
import VmScan.Proofs.Json.Literals

/-!
# Line numbers by their literals

Which number literals of a response are line numbers, and which line each of them is. An integer is
a line as itself, however many binary digits it has, as long as it is below the bound from which on
no finite binary64 number is nearest. A number with a fraction or an exponent is rounded first, and
is a line if the nearest binary64 number is an integer. Up to `2 ^ 53` the two agree.

* `WritesLine` — the line that a literal writes, if it writes one.
* `StoredAs`, `NoLine` — what becomes of a value in every field that holds a line.

Results:
* `WritesLine.unique`: a literal writes one line at most.
* `writesLine_of_rational`: all literals of an integer of up to 53 binary digits write it.
* `literal_line`: every literal is stored as the line that it writes, or refused.
-/

namespace VmScan.Detection

open VmScan.Json VmScan.Number

/-! ## Literals -/

/-- The line that a literal writes: an integer below the bound writes itself, and a number with a
fraction or an exponent the integer that its nearest binary64 number is. -/
inductive WritesLine (literal : Literal) : Int → Prop where
  | exact (h : literal.IsInteger) (hbound : literal.integer.natAbs < binary64Bound) :
      WritesLine literal literal.integer
  | rounded (h : ¬ literal.IsInteger) {x : Binary64} (hx : Binary64.Nearest literal.rational x)
      {n : Int} (hn : x.toRat? = some (n : ℚ)) : WritesLine literal n

section Literals

variable {literal : Literal} {n : Int}

/-- A literal writes one line at most. -/
theorem WritesLine.unique {m : Int} (hm : WritesLine literal m) (hn : WritesLine literal n) :
    m = n := by
  cases hm with
  | exact hinteger =>
    cases hn with
    | exact => rfl
    | rounded hother => exact absurd hinteger hother
  | rounded hother hx hm =>
    cases hn with
    | exact hinteger => exact absurd hinteger hother
    | rounded _ hy hn =>
      rw [hx.unique hy, hn] at hm
      exact_mod_cast (Option.some.inj hm).symm

/-- The value of an integer literal is its integer. -/
theorem rational_of_isInteger (h : literal.IsInteger) : literal.rational = literal.integer := by
  obtain ⟨hfraction, hexponent⟩ := h
  rw [Literal.rational, Literal.power, Literal.integer, hfraction, hexponent]
  cases literal.negative <;>
    simp [Binary64.sign, Binary64.signed, Text.asciiDigitsValue]

/-- **All literals of an integer of up to 53 binary digits write it.** -/
theorem writesLine_of_rational (hvalue : literal.rational = n) (hn : |n| ≤ 2 ^ 53) :
    WritesLine literal n := by
  have hsmall : n.natAbs ≤ 2 ^ 53 := by
    rw [Int.abs_eq_natAbs] at hn
    exact_mod_cast hn
  by_cases hinteger : literal.IsInteger
  · rw [rational_of_isInteger hinteger, Int.cast_inj] at hvalue
    subst hvalue
    exact .exact hinteger (Nat.lt_of_le_of_lt hsmall (by decide +kernel))
  · refine .rounded hinteger literal.nearest_rational ?_
    have hbound : |literal.rational| < binary64Bound := by
      have hnat : n.natAbs < binary64Bound := Nat.lt_of_le_of_lt hsmall (by decide +kernel)
      rw [hvalue, ← Int.cast_abs, Int.abs_eq_natAbs, Int.cast_natCast]
      exact_mod_cast hnat
    rw [literal.nearest_rational.eq_of_representable (hvalue ▸ Binary64.representable_int hn) hbound,
      hvalue]

end Literals

/-! ## Fields -/

/-- Every field that holds a line stores the value as this one: the fields of a region, under
either name, and the optional ones. -/
structure StoredAs (value : Value) (n : Int) : Prop where
  required : ∀ (members : Members) (field : LineField),
    FirstGiven members field.name field.olderName value → requiredLine members field = .ok n
  optional : ∀ (members : Members) (name : String),
    get? members name = some value → intMember? members name = some n

/-- No field takes the value for a line: a region with it is refused, with the field and the number
in the message, and an optional line is left out. -/
structure NoLine (value : Value) : Prop where
  required : ∀ (members : Members) (field : LineField),
    FirstGiven members field.name field.olderName value →
      ∃ shown, shownNumber? value = some shown ∧
        requiredLine members field = .error (.brokenLine field shown)
  optional : ∀ (members : Members) (name : String),
    get? members name = some value → intMember? members name = none

section Fields

variable {value : Value}

theorem exists_shownNumber? (h : IsNumber value) : ∃ shown, shownNumber? value = some shown := by
  rcases h with ⟨k, rfl⟩ | ⟨x, rfl⟩ <;> exact ⟨_, rfl⟩

/-- A number that is given for a line is read as a whole number. -/
theorem requiredLine_of_firstGiven {members : Members} {field : LineField} {shown : String}
    (hgiven : FirstGiven members field.name field.olderName value)
    (hshown : shownNumber? value = some shown) :
    requiredLine members field = match wholeNumber? value with
      | none => .error (.brokenLine field shown)
      | some n => .ok n := by
  obtain ⟨hvalue, -⟩ := (firstGiven_iff members field value).mp hgiven
  cases hwhole : wholeNumber? value <;> simp only [requiredLine, hvalue, hshown, hwhole]

theorem get?_single (name : String) (value : Value) : get? [(name, value)] name = some value := by
  simp [get?]

theorem intMember?_of_get? {members : Members} {name : String}
    (h : get? members name = some value) : intMember? members name = wholeNumber? value := by
  rw [intMember?, h, Option.bind_some]

theorem storedAs_iff {n : Int} : StoredAs value n ↔ wholeNumber? value = some n := by
  constructor
  · intro h
    rw [← intMember?_of_get? (get?_single "line_number" value)]
    exact h.optional _ _ (get?_single "line_number" value)
  · intro h
    obtain ⟨shown, hshown⟩ := exists_shownNumber? ((wholeNumber?_eq_some_iff value n).mp h).isNumber
    refine ⟨fun members field hgiven => ?_, fun members name hmember => ?_⟩
    · rw [requiredLine_of_firstGiven hgiven hshown, h]
    · rw [intMember?_of_get? hmember, h]

theorem noLine_iff (hnumber : IsNumber value) : NoLine value ↔ wholeNumber? value = none := by
  constructor
  · intro h
    rw [← intMember?_of_get? (get?_single "line_number" value)]
    exact h.optional _ _ (get?_single "line_number" value)
  · intro h
    obtain ⟨shown, hshown⟩ := exists_shownNumber? hnumber
    refine ⟨fun members field hgiven => ⟨shown, hshown, ?_⟩, fun members name hmember => ?_⟩
    · rw [requiredLine_of_firstGiven hgiven hshown, h]
    · rw [intMember?_of_get? hmember, h]

/-- What a literal stands for is read as the line that the literal writes. -/
theorem wholeNumber?_iff_writesLine {literal : Literal} (h : Denotes literal value) (n : Int) :
    wholeNumber? value = some n ↔ WritesLine literal n := by
  cases h with
  | integer hinteger =>
    simp only [wholeNumber?, fitsBinary64, Option.ite_none_right_eq_some, decide_eq_true_eq,
      Option.some.injEq]
    constructor
    · rintro ⟨hbound, rfl⟩
      exact .exact hinteger hbound
    · intro hline
      cases hline with
      | exact _ hbound => exact ⟨hbound, rfl⟩
      | rounded hother => exact absurd hinteger hother
  | rounded hother hx =>
    rw [wholeNumber?, Binary64.toInt?_eq_some_iff]
    constructor
    · exact .rounded hother hx
    · intro hline
      cases hline with
      | exact hinteger => exact absurd hinteger hother
      | rounded _ hy hn => rw [hx.unique hy, hn]

end Fields

theorem isNumber_of_denotes {literal : Literal} {value : Value} (h : Denotes literal value) :
    IsNumber value := by
  cases h with
  | integer => exact Or.inl ⟨_, rfl⟩
  | rounded => exact Or.inr ⟨_, rfl⟩

/-- **Line numbers are exact, and bounded exactly at the range of binary64.** A number literal,
wherever it stands in a text, is read as its integer or as its nearest binary64 number. Every field
stores this value as the line that the literal writes, and no field takes it for a line if the
literal writes none. That line is the integer itself for an integer below `2 ^ 1024 - 2 ^ 970`, and
otherwise the nearest binary64 number, if that is finite and an integer. So all literals of an
integer of up to 53 binary digits, and of `2 ^ 53`, are stored as it. -/
theorem literal_line (literal : Literal)
    (h : literal.IsInteger → literal.whole.length ≤ maxDigits) :
    ∃ value, (∀ runtime, decode runtime literal.text = .ok value) ∧
      (∀ runtime depth rest, EndsNumber rest →
        Reads (readValue runtime depth) (literal.text ++ rest) value rest) ∧
      Denotes literal value ∧
      (∀ n, StoredAs value n ↔ WritesLine literal n) ∧
      (NoLine value ↔ ∀ n, ¬ WritesLine literal n) ∧
      ∀ n : Int, literal.rational = n → |n| ≤ 2 ^ 53 → StoredAs value n := by
  obtain ⟨value, hdenotes, hreads⟩ := literal.exists_value h
  have hline : ∀ n, StoredAs value n ↔ WritesLine literal n := fun n =>
    storedAs_iff.trans (wholeNumber?_iff_writesLine hdenotes n)
  refine ⟨value, fun runtime => literal.decode_text (hreads runtime runtime.depth [] nofun), hreads,
    hdenotes, hline, ?_, fun n hvalue hn => (hline n).mpr (writesLine_of_rational hvalue hn)⟩
  rw [noLine_iff (isNumber_of_denotes hdenotes), Option.eq_none_iff_forall_ne_some]
  exact forall_congr' fun n => not_congr (wholeNumber?_iff_writesLine hdenotes n)

/-- The integer behind `2 ^ 53`, written with a fraction of zero or without one. -/
def behindTwoPow53 (pointed : Bool) : Literal where
  negative := false
  whole := "9007199254740993".toList
  fraction := if pointed then ['0'] else []
  exponent := none
  whole_ne := by decide
  whole_digit := List.all_eq_true.mp (by decide)
  whole_zero := by decide
  fraction_digit := List.all_eq_true.mp (by cases pointed <;> decide)

/-- Without one it is stored as itself, and with one as `2 ^ 53`. -/
theorem literal_line_behindTwoPow53 : ∃ exact rounded,
    decode .usual "9007199254740993".toList = .ok exact ∧ StoredAs exact 9007199254740993 ∧
    decode .usual "9007199254740993.0".toList = .ok rounded ∧
    StoredAs rounded 9007199254740992 := by
  have hpointed : ¬ (behindTwoPow53 true).IsInteger := fun h => absurd h.1 (List.cons_ne_nil _ _)
  obtain ⟨exact, hexact, -, -, hline, -⟩ := literal_line (behindTwoPow53 false) fun _ => by decide
  obtain ⟨rounded, hrounded, -, -, hother, -⟩ := literal_line (behindTwoPow53 true) fun h =>
    absurd h hpointed
  refine ⟨exact, rounded, hexact .usual, (hline _).mpr ?_, hrounded .usual, (hother _).mpr ?_⟩
  · exact .exact ⟨rfl, rfl⟩ (by decide +kernel)
  · refine .rounded hpointed (behindTwoPow53 true).nearest_rational
      ((Binary64.toInt?_eq_some_iff _ _).mp ?_)
    decide +kernel

end VmScan.Detection
