import Mathlib.Data.List.TakeWhile
import Mathlib.Tactic.SplitIfs
import VmScan.Script.Escape

/-!
# The characters of an escape

What a string or a template takes for an escape, behind the backslash and the character after it,
are hexadecimal digits, braces around such digits, or the second character of a line end. None of
them can close a literal, and none escapes another.

* `isEscapePart` — whether a character can stand there.

Results:
* `stringEscape_cases`, `templateEscape_cases`: the forms of an escape, with what belongs to it.
* `stringEscape_parts`, `templateEscape_parts`: all characters that belong to an escape behind its
  first are such ones.
-/

namespace VmScan.Script

open VmScan.Text

/-- Whether the character can belong to an escape behind its first: a hexadecimal digit, a brace
around such digits, or the second character of a line end. -/
def isEscapePart (c : Char) : Bool :=
  isHexDigit c || c = '\x7b' || c = '\x7d' || c = '\n'

theorem isHexDigit_of_isAsciiDigit {c : Char} (h : isAsciiDigit c = true) :
    isHexDigit c = true := by
  rw [isHexDigit, hexValue?, if_pos h]
  rfl

variable {cs : List Char}

theorem hexFixed?_parts {count value : Nat} (h : hexFixed? count cs = some value) :
    ∀ c ∈ cs.take count, isEscapePart c = true := by
  simp only [hexFixed?, Bool.and_eq_true, Option.ite_none_right_eq_some] at h
  intro c hc
  simp only [isEscapePart, List.all_eq_true.mp h.1.2 c hc, Bool.true_or]

/-- Digits in braces, in a text that starts behind the opening one. -/
theorem codePoint?_eq_some_iff {code length : Nat} : codePoint? cs = some (code, length) ↔
    ∃ digits rest, cs = digits ++ '\x7d' :: rest ∧ digits.all isHexDigit = true ∧ digits ≠ [] ∧
      hexDigitsValue digits ≤ 0x10FFFF ∧ code = hexDigitsValue digits ∧
      length = digits.length + 1 := by
  simp only [codePoint?, Option.ite_none_left_eq_some, Bool.or_eq_true, not_or,
    Option.some.injEq, Prod.mk.injEq, decide_eq_true_eq, ne_eq, not_not, Nat.not_lt,
    List.isEmpty_iff]
  constructor
  · rintro ⟨⟨⟨hdigits, hcode⟩, hclose⟩, rfl, rfl⟩
    obtain ⟨rest, hrest⟩ := List.head?_eq_some_iff.mp hclose
    refine ⟨cs.takeWhile isHexDigit, rest, ?_, List.all_takeWhile, hdigits, hcode, rfl, rfl⟩
    rw [← hrest, List.prefix_iff_eq_append.mp (List.takeWhile_prefix _)]
  · rintro ⟨digits, rest, rfl, hall, hdigits, hcode, rfl, rfl⟩
    have htake : (digits ++ '\x7d' :: rest).takeWhile isHexDigit = digits := by
      rw [List.takeWhile_append_of_pos (List.all_eq_true.mp hall),
        List.takeWhile_cons_of_neg (by decide), List.append_nil]
    rw [htake, List.drop_left]
    exact ⟨⟨⟨hdigits, hcode⟩, rfl⟩, rfl, rfl⟩

theorem codePoint?_parts {code length : Nat} (h : codePoint? cs = some (code, length)) :
    ∀ c ∈ cs.take length, isEscapePart c = true := by
  obtain ⟨digits, rest, rfl, hall, -, -, -, rfl⟩ := codePoint?_eq_some_iff.mp h
  intro c hc
  rw [List.take_length_add_append, List.mem_append] at hc
  rcases hc with hdigit | hbrace
  · simp only [isEscapePart, List.all_eq_true.mp hall c hdigit, Bool.true_or]
  · rw [List.mem_singleton.mp hbrace]
    rfl

theorem unicodeEscape?_parts {length : Nat} (h : unicodeEscape? cs = some length) :
    ∀ c ∈ cs.take length, isEscapePart c = true := by
  unfold unicodeEscape? at h
  split at h
  · obtain ⟨⟨code, count⟩, hcode, rfl⟩ := Option.map_eq_some_iff.mp h
    rw [List.take_succ_cons]
    exact List.forall_mem_cons.mpr ⟨rfl, codePoint?_parts hcode⟩
  · obtain ⟨value, hvalue, rfl⟩ := Option.map_eq_some_iff.mp h
    exact hexFixed?_parts hvalue

theorem lineEndRest_parts (first : Char) :
    ∀ c ∈ cs.take (lineEndRest first cs), isEscapePart c = true := by
  unfold lineEndRest
  split_ifs with h
  · rw [Bool.and_eq_true, decide_eq_true_eq, decide_eq_true_eq] at h
    obtain ⟨rest, rfl⟩ := List.head?_eq_some_iff.mp h.2
    exact List.forall_mem_singleton.mpr rfl
  · exact List.forall_mem_nil _

section Escapes

variable {first : Char} {count : Nat}

/-- The escapes of a string: by number, and all others. -/
theorem stringEscape_cases (h : stringEscape first cs = .ok count) :
    (first = 'u' ∧ unicodeEscape? cs = some count) ∨
    (first = 'x' ∧ (hexFixed? 2 cs).isSome ∧ count = 2) ∨
    (first ≠ 'u' ∧ first ≠ 'x' ∧ ¬ (first = '8' ∨ first = '9') ∧ count = lineEndRest first cs) := by
  unfold stringEscape at h
  split_ifs at h with hu hx hhex hnine
  · cases hunicode : unicodeEscape? cs with
    | none => rw [hunicode] at h; cases h
    | some length =>
      rw [hunicode] at h
      exact Or.inl ⟨hu, congrArg some (Except.ok.inj h)⟩
  · exact Or.inr (Or.inl ⟨hx, hhex, (Except.ok.inj h).symm⟩)
  · exact Or.inr (Or.inr ⟨hu, hx, by simpa using hnine, (Except.ok.inj h).symm⟩)

/-- What belongs to an escape in a string behind its first character. -/
theorem stringEscape_parts (h : stringEscape first cs = .ok count) :
    ∀ c ∈ cs.take count, isEscapePart c = true := by
  obtain ⟨-, hunicode⟩ | ⟨-, hhex, rfl⟩ | ⟨-, -, -, rfl⟩ := stringEscape_cases h
  · exact unicodeEscape?_parts hunicode
  · obtain ⟨value, hvalue⟩ := Option.isSome_iff_exists.mp hhex
    exact hexFixed?_parts hvalue
  · exact lineEndRest_parts first

/-- The escapes of a template: by number with braces, without them, with two digits, the null
character, and all others. -/
theorem templateEscape_cases (h : templateEscape first cs = .ok count) :
    (first = 'u' ∧ cs.head? = some '\x7b' ∧ unicodeEscape? cs = some count) ∨
    (first = 'u' ∧ cs.head? ≠ some '\x7b' ∧ count = 0) ∨
    (first = 'x' ∧ (hexFixed? 2 cs).isSome ∧ count = 2) ∨
    (first = '0' ∧ cs.head?.any isAsciiDigit = false ∧ count = 0) ∨
    (first ≠ 'u' ∧ first ≠ 'x' ∧ ¬ isOctalDigit first = true ∧ count = lineEndRest first cs) := by
  unfold templateEscape at h
  split_ifs at h with hu hbrace hx hhex hzero hdigit hoctal
  · cases hunicode : unicodeEscape? cs with
    | none => rw [hunicode] at h; cases h
    | some length =>
      rw [hunicode] at h
      exact Or.inl ⟨hu, hbrace, congrArg some (Except.ok.inj h)⟩
  · exact Or.inr (Or.inl ⟨hu, hbrace, (Except.ok.inj h).symm⟩)
  · exact Or.inr (Or.inr (Or.inl ⟨hx, hhex, (Except.ok.inj h).symm⟩))
  · exact Or.inr (Or.inr (Or.inr (Or.inl
      ⟨hzero, Bool.eq_false_iff.mpr hdigit, (Except.ok.inj h).symm⟩)))
  · exact Or.inr (Or.inr (Or.inr (Or.inr ⟨hu, hx, hoctal, (Except.ok.inj h).symm⟩)))

/-- What belongs to an escape in a template behind its first character. -/
theorem templateEscape_parts (h : templateEscape first cs = .ok count) :
    ∀ c ∈ cs.take count, isEscapePart c = true := by
  obtain ⟨-, -, hunicode⟩ | ⟨-, -, rfl⟩ | ⟨-, hhex, rfl⟩ | ⟨-, -, rfl⟩ | ⟨-, -, -, rfl⟩ :=
    templateEscape_cases h
  · exact unicodeEscape?_parts hunicode
  · exact List.forall_mem_nil _
  · obtain ⟨value, hvalue⟩ := Option.isSome_iff_exists.mp hhex
    exact hexFixed?_parts hvalue
  · exact List.forall_mem_nil _
  · exact lineEndRest_parts first

end Escapes

end VmScan.Script
