import Mathlib.Tactic.SplitIfs
import VmScan.Json.Printer
import VmScan.Json.Reader

/-!
# Written strings are read back

A string literal is written character by character, and each written character is read back in
front of the rest of the literal.

* `Reads` — a reader reads a value at the start of a text and leaves the rest.

Results:
* `hexQuad?_hexFixed`: four hexadecimal digits write the number that is read from them.
* `Reads.escapeChar`: one character, in whatever form it is written.
* `reads_literal`: a literal behind its opening quote.
-/

namespace VmScan.Json

variable {runtime : Runtime}

/-- The reader reads this value at the start of the input, and leaves the rest. -/
def Reads {α : Type} (reader : Reader α) (input : List Char) (value : α) (rest : List Char) :
    Prop :=
  ∃ parsed, reader input = .ok parsed ∧ parsed.value = value ∧ parsed.rest = rest

/-! ## Hexadecimal digits -/

theorem hexValue?_hexDigit {n : Nat} (h : n < 16) : Text.hexValue? (Text.hexDigit n) = some n := by
  have hall : ∀ n < 16, Text.hexValue? (Text.hexDigit n) = some n := by decide
  exact hall n h

/-- Four hexadecimal digits write the number that is read from them. -/
theorem hexQuad?_hexFixed {n : Nat} (h : n < 0x10000) :
    ∃ a b d e, Text.hexFixed 4 n = [a, b, d, e] ∧ hexQuad? a b d e = some n := by
  refine ⟨_, _, _, _, rfl, ?_⟩
  unfold hexQuad?
  rw [hexValue?_hexDigit (by omega), hexValue?_hexDigit (by omega), hexValue?_hexDigit (by omega),
    hexValue?_hexDigit (by omega)]
  simp only [Option.bind_eq_bind, Option.bind_some, Option.pure_def, Option.some.injEq]
  omega

/-- An escape by number writes a character that is no half of a surrogate pair, where the text
goes on behind it. -/
theorem reads_unicode {c : Char} (hc : c.toNat < 0x20) {rest : List Char} (hrest : rest ≠ []) :
    Reads (readUnicode runtime) ('u' :: Text.hexFixed 4 c.toNat ++ rest) c rest := by
  obtain ⟨next, more, rfl⟩ := List.exists_cons_of_ne_nil hrest
  obtain ⟨a, b, d, e, hdigits, hvalue⟩ := hexQuad?_hexFixed (show c.toNat < 0x10000 by omega)
  have hhigh : isHighSurrogate c.toNat = false := by
    rw [isHighSurrogate, Bool.and_eq_false_iff, decide_eq_false_iff_not]
    omega
  have hlow : isLowSurrogate c.toNat = false := by
    rw [isLowSurrogate, Bool.and_eq_false_iff, decide_eq_false_iff_not]
    omega
  have hchar : charOfUnit runtime c.toNat = c := by
    rw [charOfUnit, hhigh, hlow]
    exact Char.ofNat_toNat c
  unfold Reads
  rw [hdigits]
  simp only [List.cons_append, List.nil_append, readUnicode, hvalue, hhigh, hchar,
    Bool.false_eq_true, if_false]
  exact ⟨_, rfl, rfl, rfl⟩

/-! ## One character -/

section Literal

variable {opening rest after cs : List Char} {c letter : Char}

theorem reads_quote (opening rest : List Char) :
    Reads (readString runtime opening) ('"' :: rest) [] rest := by
  unfold Reads
  rw [readString]
  exact ⟨_, rfl, rfl, rfl⟩

theorem Reads.letterEscape (hletter : simpleEscape? letter = some c)
    (h : Reads (readString runtime opening) rest cs after) :
    Reads (readString runtime opening) ('\\' :: letter :: rest) (c :: cs) after := by
  obtain ⟨parsed, h, rfl, rfl⟩ := h
  have hu : letter ≠ 'u' := by
    rintro rfl
    cases hletter
  unfold Reads
  rw [readString]
  · simp only [hletter, h]
    exact ⟨_, rfl, rfl, rfl⟩
  · exact hu

theorem Reads.numberEscape {digits : List Char}
    (hc : Reads (readUnicode runtime) ('u' :: digits) c rest)
    (h : Reads (readString runtime opening) rest cs after) :
    Reads (readString runtime opening) ('\\' :: 'u' :: digits) (c :: cs) after := by
  obtain ⟨char, hc, rfl, rfl⟩ := hc
  obtain ⟨parsed, h, rfl, rfl⟩ := h
  unfold Reads
  rw [readString]
  simp only [hc, h]
  exact ⟨_, rfl, rfl, rfl⟩

theorem Reads.plainChar (hquote : c ≠ '"') (hslash : c ≠ '\\') (hspace : ¬ c.toNat < 0x20)
    (h : Reads (readString runtime opening) rest cs after) :
    Reads (readString runtime opening) (c :: rest) (c :: cs) after := by
  obtain ⟨parsed, h, rfl, rfl⟩ := h
  unfold Reads
  rw [readString]
  · simp only [hspace, h, if_false]
    exact ⟨_, rfl, rfl, rfl⟩
  · exact hquote
  · exact fun hc _ => hslash hc
  · exact fun _ hc _ => hslash hc
  · exact fun _ _ hc _ => hslash hc

/-- **A written character is read back**, in whatever form it is written. -/
theorem Reads.escapeChar (c : Char) (h : Reads (readString runtime opening) rest cs after) :
    Reads (readString runtime opening) (escapeChar c ++ rest) (c :: cs) after := by
  have hrest : rest ≠ [] := by
    rintro rfl
    obtain ⟨parsed, -⟩ := h
    exact absurd parsed.shorter (Nat.not_lt_zero _)
  unfold Json.escapeChar
  split_ifs with hquote hslash hfeed hreturn htab hpage hback hcontrol
  · subst hquote
    exact h.letterEscape rfl
  · subst hslash
    exact h.letterEscape rfl
  · subst hfeed
    exact h.letterEscape rfl
  · subst hreturn
    exact h.letterEscape rfl
  · subst htab
    exact h.letterEscape rfl
  · subst hpage
    exact h.letterEscape rfl
  · subst hback
    exact h.letterEscape rfl
  · exact (reads_unicode hcontrol hrest).numberEscape h
  · exact h.plainChar hquote hslash hcontrol

end Literal

/-! ## A whole literal -/

/-- **A written literal is read back**, behind its opening quote. -/
theorem reads_literal (runtime : Runtime) (opening cs rest : List Char) :
    Reads (readString runtime opening) (cs.flatMap escapeChar ++ '"' :: rest) cs rest := by
  induction cs with
  | nil => exact reads_quote opening rest
  | cons c cs ih =>
    rw [List.flatMap_cons, List.append_assoc]
    exact ih.escapeChar c

end VmScan.Json
