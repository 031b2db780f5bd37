import VmScan.Proofs.Script.Sequences

/-!
# Reading up to a cut

A literal is read sequence by sequence. What is read of a sequence depends on the text behind it
only where that could belong to the sequence, so a cut body is read as far as its whole sequences
reach. What is kept of a parted one is read on, or refused, as its form says.

* `SameStart` — whether a text goes on as another does, or in a way that no escape goes on.
* `PassesOver` — whether an escape is read without a fault together with the characters behind it.
* `Readable` — what is kept of a sequence is read as an escape that is shorter, or with characters
  that stand for themselves behind it.
* `Reader` — how the strings with a quote, or the pieces of a template with an opening, are read.

Results:
* `stringEscape_whole`, `templateEscape_whole`: whole sequences are read whatever stands behind.
* `stringEscape_of_readable`, `templateEscape_of_readable`: so is what is readable of one.
* `stringEscape_refused`, `templateEscape_refused`: all else that a cut keeps of one is refused.
* `reader_string`, `reader_template`: the two forms of literals are read in this way.
* `Reader.front`: whole sequences are read one after the other.
* `Reader.note`: the note is read on, up to the mark that closes the literal.
* `Reader.cut`: a cut body is read exactly if what it keeps of the parted sequence is readable.
-/

namespace VmScan.Script

open VmScan.Text

/-! ## What stands behind a cut -/

/-- The text starts as the other does, or with a character that cannot belong to an escape. -/
def SameStart (other before : List Char) : Prop :=
  other.head? = before.head? ∨ ∀ c ∈ other.head?, isEscapePart c = false

section SameStart

variable {other before : List Char}

theorem SameStart.refl (before : List Char) : SameStart before before := Or.inl rfl

theorem SameStart.append_left (h : SameStart other before) (front : List Char) :
    SameStart (front ++ other) (front ++ before) := by
  cases front with
  | nil => exact h
  | cons c front => exact Or.inl rfl

theorem SameStart.take {cs : List Char} {length : Nat} (h : SameStart other (cs.drop length)) :
    SameStart (cs.take length ++ other) cs := by
  have hwhole := h.append_left (cs.take length)
  rwa [List.take_append_drop] at hwhole

theorem SameStart.head?_ne (h : SameStart other before) {c : Char} (hc : isEscapePart c = true)
    (hbefore : before.head? ≠ some c) : other.head? ≠ some c := by
  intro hother
  rcases h with hsame | hnone
  · exact hbefore (hsame ▸ hother)
  · rw [hnone c hother] at hc
    cases hc

theorem isEscapePart_dot (hdot : other.head? = some '.') :
    ∀ c ∈ other.head?, isEscapePart c = false := by
  intro c hc
  rw [hdot] at hc
  rw [← Option.some.inj hc]
  rfl

end SameStart

/-! ## Escapes behind which the text is another -/

/-- The escape is read without a fault, and the characters of the run that do not belong to it are
read on. -/
def PassesOver (escapeOf : Char → List Char → Except Cause Nat) (first : Char)
    (run other : List Char) : Prop :=
  ∃ count, escapeOf first (run ++ other) = .ok count ∧ count ≤ run.length ∧
    ∀ c ∈ run.drop count, IsPlain c

/-- What is kept of a sequence is read: a line end cut in two, some of the octal digits of an escape
in a string, or in a template some of the digits behind the letter of an escape without braces. -/
inductive Readable : LexemeKind → List Char → Prop where
  | whole (kind : LexemeKind) : Readable kind []
  | lineEnd (kind : LexemeKind) : Readable kind ['\\', '\r']
  | octal {first : Char} {digits : List Char} (hfirst : isOctalDigit first = true)
      (hdigits : ∀ c ∈ digits, isOctalDigit c = true) : Readable .string ('\\' :: first :: digits)
  | unicode {digits : List Char} (hdigits : ∀ c ∈ digits, isHexDigit c = true) :
      Readable .template ('\\' :: 'u' :: digits)

section Escapes

variable {first : Char} {cs other run : List Char} {count length kept : Nat}

/-- An escape with all that belongs to it. -/
theorem passesOver_take {escapeOf : Char → List Char → Except Cause Nat}
    (hescape : escapeOf first (cs.take length ++ other) = .ok length) (hle : length ≤ cs.length) :
    PassesOver escapeOf first (cs.take length) other := by
  have hlength : (cs.take length).length = length := by rw [List.length_take, Nat.min_eq_left hle]
  refine ⟨length, hescape, hlength.ge, ?_⟩
  rw [List.drop_eq_nil_of_le hlength.le]
  exact List.forall_mem_nil _

theorem lineEndRest_of_ne (hfirst : first ≠ '\r') (cs : List Char) : lineEndRest first cs = 0 :=
  if_neg (by simp [hfirst])

theorem lineEndRest_of_head?_ne (hfeed : cs.head? ≠ some '\n') (first : Char) :
    lineEndRest first cs = 0 :=
  if_neg (by simp [hfeed])

theorem lineEndRest_take_append (h : SameStart other (cs.drop (lineEndRest first cs))) :
    lineEndRest first (cs.take (lineEndRest first cs) ++ other) = lineEndRest first cs := by
  by_cases hfirst : first = '\r'
  · by_cases hfeed : cs.head? = some '\n'
    · obtain ⟨rest, rfl⟩ := List.head?_eq_some_iff.mp hfeed
      rw [hfirst]
      rfl
    · rw [lineEndRest_of_head?_ne (h.take.head?_ne rfl hfeed), lineEndRest_of_head?_ne hfeed]
  · rw [lineEndRest_of_ne hfirst, lineEndRest_of_ne hfirst]

theorem escapeRest_unicode (cs : List Char) : escapeRest 'u' cs = (unicodeEscape? cs).getD 0 :=
  if_pos rfl

theorem escapeRest_hex (h : (hexFixed? 2 cs).isSome) : escapeRest 'x' cs = 2 := by
  rw [escapeRest, if_neg (by decide), if_pos rfl, if_pos h]

theorem escapeRest_octal (hfirst : isOctalDigit first = true) (cs : List Char) :
    escapeRest first cs = octalRest first cs := by
  have hu : first ≠ 'u' := fun heq => absurd (heq ▸ hfirst) (by decide)
  have hx : first ≠ 'x' := fun heq => absurd (heq ▸ hfirst) (by decide)
  rw [escapeRest, if_neg hu, if_neg hx, if_pos hfirst]

theorem escapeRest_other (hu : first ≠ 'u') (hx : first ≠ 'x') (hoctal : ¬ isOctalDigit first = true)
    (cs : List Char) : escapeRest first cs = lineEndRest first cs := by
  rw [escapeRest, if_neg hu, if_neg hx, if_neg hoctal]

theorem isOctalDigit_of_mem_octalRest {c : Char} (hc : c ∈ cs.take (octalRest first cs)) :
    isOctalDigit c = true := by
  rw [take_octalRest] at hc
  exact List.mem_takeWhile_imp hc

/-- An escape by number that a cut parts is none. -/
theorem unicodeEscape?_parted (hescape : unicodeEscape? cs = some length)
    (hkept : kept < length) (hother : ∀ c ∈ other.head?, isEscapePart c = false) :
    unicodeEscape? (cs.take kept ++ other) = none := by
  rw [unicodeEscape?_append hother, ← Option.not_isSome_iff_eq_none, Option.isSome_iff_exists]
  rintro ⟨shorter, hshorter⟩
  -- the digits that were kept would be an escape with all that was cut away behind them
  have hle : shorter ≤ kept := by
    have hlength := le_of_unicodeEscape? hshorter
    rw [List.length_take] at hlength
    omega
  have hwhole := unicodeEscape?_take_append hshorter (cs.drop shorter)
  rw [List.take_take, Nat.min_eq_left hle, List.take_append_drop, hescape] at hwhole
  have hsame := Option.some.inj hwhole
  omega

theorem hexFixed?_parted (hkept : kept < count)
    (hother : ∀ c ∈ other.head?, isEscapePart c = false) :
    (hexFixed? count (cs.take kept ++ other)).isSome = false := by
  rw [hexFixed?_append fun c hc => (not_escapePart_iff.mp (hother c hc)).1, Bool.eq_false_iff]
  intro hsome
  have hlength := le_of_hexFixed? hsome
  rw [List.length_take] at hlength
  omega

/-- Only a line feed behind a carriage return can be cut off a line end. -/
theorem lineEnd_parted (hkept : kept < lineEndRest first cs) :
    first = '\r' ∧ kept = 0 := by
  rw [lineEndRest] at hkept
  split_ifs at hkept with h
  · rw [Bool.and_eq_true, decide_eq_true_eq] at h
    exact ⟨h.1, Nat.lt_one_iff.mp hkept⟩
  · cases hkept

/-- An escape that is one character, with plain characters behind it. -/
theorem passesOver_of_zero {escapeOf : Char → List Char → Except Cause Nat}
    (hescape : escapeOf first (run ++ other) = .ok 0) (hrun : ∀ c ∈ run, IsPlain c) :
    PassesOver escapeOf first run other :=
  ⟨0, hescape, Nat.zero_le _, hrun⟩

theorem passesOver_lineEnd {escapeOf : Char → List Char → Except Cause Nat}
    (hescape : ∀ cs, escapeOf first cs = .ok (lineEndRest first cs))
    (hother : SameStart other (cs.drop (lineEndRest first cs))) :
    PassesOver escapeOf first (cs.take (lineEndRest first cs)) other :=
  passesOver_take ((hescape _).trans (congrArg _ (lineEndRest_take_append hother)))
    (lineEndRest_le first cs)

/-! ### Strings -/

theorem stringEscape_other (hu : first ≠ 'u') (hx : first ≠ 'x')
    (hnine : ¬ (first = '8' ∨ first = '9')) (cs : List Char) :
    stringEscape first cs = .ok (lineEndRest first cs) := by
  rw [stringEscape, if_neg hu, if_neg hx, if_neg (by simpa using hnine)]

theorem stringEscape_octal (hoctal : isOctalDigit first = true) (cs : List Char) :
    stringEscape first cs = .ok 0 := by
  have hne : ∀ c, isOctalDigit c = false → first ≠ c := fun c hc heq => by
    rw [heq, hc] at hoctal
    cases hoctal
  rw [stringEscape_other (hne 'u' rfl) (hne 'x' rfl) (not_or.mpr ⟨hne '8' rfl, hne '9' rfl⟩),
    lineEndRest_of_ne (hne '\r' rfl)]

/-- Whole sequences of a string are read whatever stands behind. -/
theorem stringEscape_whole (h : stringEscape first cs = .ok count)
    (hother : SameStart other (cs.drop (escapeRest first cs))) :
    PassesOver stringEscape first (cs.take (escapeRest first cs)) other := by
  obtain ⟨rfl, hunicode⟩ | ⟨rfl, hhex, rfl⟩ | ⟨hu, hx, hnine, -⟩ := stringEscape_cases h
  · rw [escapeRest_unicode, hunicode, Option.getD_some]
    refine passesOver_take ?_ (le_of_unicodeEscape? hunicode)
    rw [stringEscape, if_pos rfl, unicodeEscape?_take_append hunicode]
  · rw [escapeRest_hex hhex]
    refine passesOver_take ?_ (le_of_hexFixed? hhex)
    rw [stringEscape, if_neg (by decide), if_pos rfl, hexFixed?_take_append hhex (Nat.le_refl 2),
      if_pos hhex]
  · by_cases hoctal : isOctalDigit first = true
    · rw [escapeRest_octal hoctal]
      exact passesOver_of_zero (stringEscape_octal hoctal _) fun c hc =>
        isPlain_of_isHexDigit (isHexDigit_of_isOctalDigit (isOctalDigit_of_mem_octalRest hc))
    · rw [escapeRest_other hu hx hoctal] at hother ⊢
      exact passesOver_lineEnd (stringEscape_other hu hx hnine) hother

/-- What is readable of a sequence of a string is read with the note behind it. -/
theorem stringEscape_of_readable (h : Readable .string ('\\' :: first :: run))
    (hdot : other.head? = some '.') : PassesOver stringEscape first run other := by
  cases h with
  | lineEnd =>
    refine passesOver_of_zero ?_ (List.forall_mem_nil _)
    rw [List.nil_append, stringEscape_other (by decide) (by decide) (by decide),
      lineEndRest_of_head?_ne (by rw [hdot]; decide)]
  | octal hfirst hdigits =>
    exact passesOver_of_zero (stringEscape_octal hfirst _) fun c hc =>
      isPlain_of_isHexDigit (isHexDigit_of_isOctalDigit (hdigits c hc))

/-- All else that a cut keeps of a sequence of a string is refused. -/
theorem stringEscape_refused (h : stringEscape first cs = .ok count)
    (hkept : kept < escapeRest first cs) (hdot : other.head? = some '.')
    (hreadable : ¬ Readable .string ('\\' :: first :: cs.take kept)) :
    ∃ cause, stringEscape first (cs.take kept ++ other) = .error cause := by
  have hother : ∀ c ∈ other.head?, isEscapePart c = false := isEscapePart_dot hdot
  obtain ⟨rfl, hunicode⟩ | ⟨rfl, hhex, rfl⟩ | ⟨hu, hx, hnine, -⟩ := stringEscape_cases h
  · rw [escapeRest_unicode, hunicode, Option.getD_some] at hkept
    rw [stringEscape, if_pos rfl, unicodeEscape?_parted hunicode hkept hother]
    exact ⟨_, rfl⟩
  · rw [escapeRest_hex hhex] at hkept
    rw [stringEscape, if_neg (by decide), if_pos rfl, if_neg]
    · exact ⟨_, rfl⟩
    · rw [hexFixed?_parted hkept hother]
      exact Bool.false_ne_true
  · refine absurd ?_ hreadable
    by_cases hoctal : isOctalDigit first = true
    · rw [escapeRest_octal hoctal] at hkept
      exact .octal hoctal fun c hc => isOctalDigit_of_mem_octalRest
        ((List.take_prefix_take_left (Nat.le_of_lt hkept)).subset hc)
    · rw [escapeRest_other hu hx hoctal] at hkept
      obtain ⟨rfl, rfl⟩ := lineEnd_parted hkept
      exact .lineEnd _

/-! ### Templates -/

theorem templateEscape_unicode (hbrace : cs.head? ≠ some '\x7b') :
    templateEscape 'u' cs = .ok 0 := by
  rw [templateEscape, if_pos rfl, if_neg hbrace]

theorem templateEscape_other (hu : first ≠ 'u') (hx : first ≠ 'x')
    (hoctal : ¬ isOctalDigit first = true) (cs : List Char) :
    templateEscape first cs = .ok (lineEndRest first cs) := by
  have hzero : first ≠ '0' := fun heq => hoctal (heq ▸ rfl)
  rw [templateEscape, if_neg hu, if_neg hx, if_neg hzero, if_neg hoctal]

/-- Without braces, only hexadecimal digits belong to an escape by number. -/
theorem isHexDigit_of_mem_unicode (hbrace : cs.head? ≠ some '\x7b') {c : Char}
    (hc : c ∈ cs.take (escapeRest 'u' cs)) : isHexDigit c = true := by
  rw [escapeRest_unicode, unicodeEscape?.eq_2 cs (fun rest heq => hbrace (heq ▸ rfl))] at hc
  cases hhex : hexFixed? 4 cs with
  | none => rw [hhex] at hc; cases hc
  | some value =>
    rw [hhex] at hc
    simp only [hexFixed?, Bool.and_eq_true, Option.ite_none_right_eq_some] at hhex
    exact List.all_eq_true.mp hhex.1.2 c hc

theorem escapeRest_null (hdigit : cs.head?.any isAsciiDigit = false) : escapeRest '0' cs = 0 := by
  rw [escapeRest_octal rfl, octalRest]
  cases cs with
  | nil => rfl
  | cons c cs =>
    have hc : isOctalDigit c = false := by
      rw [Bool.eq_false_iff]
      intro hoctal
      have hascii := isAsciiDigit_of_isOctalDigit hoctal
      rw [List.head?_cons, Option.any_some, hascii] at hdigit
      cases hdigit
    rw [if_pos (by decide), List.take_succ_cons, List.takeWhile_cons_of_neg (by simp [hc])]
    rfl

theorem templateEscape_null (hdigit : cs.head?.any isAsciiDigit = false) :
    templateEscape '0' cs = .ok 0 := by
  rw [templateEscape, if_neg (by decide), if_neg (by decide), if_pos rfl, hdigit]
  rfl

/-- Whole sequences of a template are read whatever stands behind. -/
theorem templateEscape_whole (h : templateEscape first cs = .ok count)
    (hother : SameStart other (cs.drop (escapeRest first cs))) :
    PassesOver templateEscape first (cs.take (escapeRest first cs)) other := by
  obtain ⟨rfl, hbrace, hunicode⟩ | ⟨rfl, hbrace, -⟩ | ⟨rfl, hhex, rfl⟩ | ⟨rfl, hdigit, -⟩ |
    ⟨hu, hx, hoctal, -⟩ := templateEscape_cases h
  · obtain ⟨cs, rfl⟩ := List.head?_eq_some_iff.mp hbrace
    rw [escapeRest_unicode, hunicode, Option.getD_some]
    refine passesOver_take ?_ (le_of_unicodeEscape? hunicode)
    cases count with
    | zero =>
      rw [unicodeEscape?] at hunicode
      obtain ⟨⟨code, length⟩, -, hlength⟩ := Option.map_eq_some_iff.mp hunicode
      cases hlength
    | succ count =>
      have hhead : (('\x7b' :: cs).take (count + 1) ++ other).head? = some '\x7b' := rfl
      rw [templateEscape, if_pos rfl, if_pos hhead, unicodeEscape?_take_append hunicode]
  · exact passesOver_of_zero (templateEscape_unicode (hother.take.head?_ne rfl hbrace))
      fun c hc => isPlain_of_isHexDigit (isHexDigit_of_mem_unicode hbrace hc)
  · rw [escapeRest_hex hhex]
    refine passesOver_take ?_ (le_of_hexFixed? hhex)
    rw [templateEscape, if_neg (by decide), if_pos rfl, hexFixed?_take_append hhex (Nat.le_refl 2),
      if_pos hhex]
  · rw [escapeRest_null hdigit] at hother ⊢
    refine passesOver_of_zero (templateEscape_null ?_) (List.forall_mem_nil _)
    rw [Bool.eq_false_iff, ne_eq, Option.any_eq_true]
    rintro ⟨c, hc, hascii⟩
    refine hother.head?_ne ?_ (fun hcs => ?_) hc
    · simp only [isEscapePart, isHexDigit_of_isAsciiDigit hascii, Bool.true_or]
    · rw [List.drop_zero] at hcs
      rw [hcs, Option.any_some, hascii] at hdigit
      cases hdigit
  · rw [escapeRest_other hu hx hoctal] at hother ⊢
    exact passesOver_lineEnd (templateEscape_other hu hx hoctal) hother

/-- What is readable of a sequence of a template is read with the note behind it. -/
theorem templateEscape_of_readable (h : Readable .template ('\\' :: first :: run))
    (hdot : other.head? = some '.') : PassesOver templateEscape first run other := by
  cases h with
  | lineEnd =>
    refine passesOver_of_zero ?_ (List.forall_mem_nil _)
    rw [List.nil_append, templateEscape_other (by decide) (by decide) (by decide),
      lineEndRest_of_head?_ne (by rw [hdot]; decide)]
  | unicode hdigits =>
    refine passesOver_of_zero (templateEscape_unicode ?_) fun c hc =>
      isPlain_of_isHexDigit (hdigits c hc)
    cases run with
    | nil => rw [List.nil_append, hdot]; decide
    | cons c run =>
      intro hc
      have hdigit := hdigits c List.mem_cons_self
      rw [Option.some.inj hc] at hdigit
      exact absurd hdigit (by decide)

/-- All else that a cut keeps of a sequence of a template is refused. -/
theorem templateEscape_refused (h : templateEscape first cs = .ok count)
    (hkept : kept < escapeRest first cs) (hdot : other.head? = some '.')
    (hreadable : ¬ Readable .template ('\\' :: first :: cs.take kept)) :
    ∃ cause, templateEscape first (cs.take kept ++ other) = .error cause := by
  have hother : ∀ c ∈ other.head?, isEscapePart c = false := isEscapePart_dot hdot
  obtain ⟨rfl, hbrace, hunicode⟩ | ⟨rfl, hbrace, -⟩ | ⟨rfl, hhex, rfl⟩ | ⟨rfl, hdigit, -⟩ |
    ⟨hu, hx, hoctal, -⟩ := templateEscape_cases h
  · obtain ⟨cs, rfl⟩ := List.head?_eq_some_iff.mp hbrace
    rw [escapeRest_unicode, hunicode, Option.getD_some] at hkept
    cases kept with
    | zero => exact absurd (.unicode (List.forall_mem_nil _)) hreadable
    | succ kept =>
      rw [templateEscape, if_pos rfl, unicodeEscape?_parted hunicode hkept hother]
      exact ⟨_, rfl⟩
  · exact absurd (.unicode fun c hc => isHexDigit_of_mem_unicode hbrace
      ((List.take_prefix_take_left (Nat.le_of_lt hkept)).subset hc)) hreadable
  · rw [escapeRest_hex hhex] at hkept
    rw [templateEscape, if_neg (by decide), if_pos rfl, if_neg]
    · exact ⟨_, rfl⟩
    · rw [hexFixed?_parted hkept hother]
      exact Bool.false_ne_true
  · rw [escapeRest_null hdigit] at hkept
    cases hkept
  · rw [escapeRest_other hu hx hoctal] at hkept
    obtain ⟨rfl, rfl⟩ := lineEnd_parted hkept
    exact absurd (.lineEnd _) hreadable

end Escapes

/-! ## Readers -/

theorem advance_zero (result : Except Fault Nat) : advance 0 result = result := by
  cases result with
  | error fault => simp only [advance, Nat.zero_add]
  | ok length => simp only [advance, Nat.zero_add]

theorem advance_advance (count more : Nat) (result : Except Fault Nat) :
    advance count (advance more result) = advance (count + more) result := by
  cases result with
  | error fault => simp only [advance, Nat.add_assoc]
  | ok length => simp only [advance, Nat.add_assoc]

theorem advance_length (front back : List Char) :
    advance front.length (.ok back.length) = .ok (front ++ back).length :=
  congrArg Except.ok List.length_append.symm

/-- How the literals of a kind with an opening mark are read behind it. -/
structure Reader (kind : LexemeKind) (opening : Char)
    (escapeOf : Char → List Char → Except Cause Nat) (read : List Char → Except Fault Nat) :
    Prop where
  -- single characters, in any text and where the literal was read before
  plain : ∀ {c : Char}, IsPlain c → ∀ cs, read (c :: cs) = advance 1 (read cs)
  single : ∀ {c : Char} {cs other : List Char} {length : Nat}, c ≠ '\\' →
    (∀ mark ∈ endsOf opening, ¬ mark <+: c :: cs) → read (c :: cs) = .ok length →
    SameStart other cs → read (c :: other) = advance 1 (read other)
  -- an escape, by what the characters behind the backslash are
  escape : ∀ {first : Char} {cs : List Char} {count : Nat}, escapeOf first cs = .ok count →
    read ('\\' :: first :: cs) = advance (count + 2) (read (cs.drop count))
  fault : ∀ {first : Char} {cs : List Char} {cause : Cause}, escapeOf first cs = .error cause →
    read ('\\' :: first :: cs) = .error ⟨cause, 1⟩
  -- escapes of a text that was read before, with another text behind them
  whole : ∀ {first : Char} {cs other : List Char} {count : Nat}, escapeOf first cs = .ok count →
    SameStart other (cs.drop (escapeRest first cs)) →
    PassesOver escapeOf first (cs.take (escapeRest first cs)) other
  readable : ∀ {first : Char} {run other : List Char}, Readable kind ('\\' :: first :: run) →
    other.head? = some '.' → PassesOver escapeOf first run other
  refused : ∀ {first : Char} {cs other : List Char} {count kept : Nat},
    escapeOf first cs = .ok count → kept < escapeRest first cs → other.head? = some '.' →
    ¬ Readable kind ('\\' :: first :: cs.take kept) →
    ∃ cause, escapeOf first (cs.take kept ++ other) = .error cause
  closing : ∀ {mark : List Char}, mark ∈ endsOf opening → ∀ after,
    read (mark ++ after) = .ok mark.length

theorem backslash_ne {quote : Char} (hquote : quote = '\'' ∨ quote = '"') : '\\' ≠ quote := by
  rcases hquote with rfl | rfl <;> decide

theorem reader_string {quote : Char} (hquote : quote = '\'' ∨ quote = '"') :
    Reader .string quote stringEscape (stringLength quote) where
  plain := by
    rintro c ⟨hc, hend⟩ cs
    have hmark : c ≠ quote := by
      rintro rfl
      rcases hquote with rfl | rfl <;> exact hc (by decide)
    have hbackslash : c ≠ '\\' := fun heq => hc (heq ▸ by decide)
    rw [stringLength.eq_def]
    simp only [if_neg hmark, if_neg hbackslash, hend, Bool.false_eq_true, if_false]
  single := by
    intro c cs other length hbackslash hmarks hread hother
    have hmark : c ≠ quote := fun heq => hmarks [quote]
      (by rw [endsOf_quote hquote]; exact List.mem_singleton_self _)
      (List.cons_prefix_cons.mpr ⟨heq.symm, List.nil_prefix⟩)
    rw [stringLength.eq_def] at hread ⊢
    simp only [if_neg hmark, if_neg hbackslash] at hread ⊢
    split_ifs at hread ⊢ with hend
    rfl
  escape := by
    intro first cs count hescape
    rw [stringLength.eq_3, if_neg (backslash_ne hquote), if_pos rfl, hescape]
  fault := by
    intro first cs cause hescape
    rw [stringLength.eq_3, if_neg (backslash_ne hquote), if_pos rfl, hescape]
  whole := stringEscape_whole
  readable := stringEscape_of_readable
  refused := stringEscape_refused
  closing := by
    intro mark hmark after
    rw [endsOf_quote hquote] at hmark
    rw [List.mem_singleton.mp hmark, List.singleton_append, stringLength.eq_def]
    exact if_pos rfl

theorem reader_template {opening : Char} (hopening : opening = '\x60' ∨ opening = '\x7d') :
    Reader .template opening templateEscape templateLength where
  plain := by
    rintro c ⟨hc, -⟩ cs
    have hne : ∀ stop ∈ stops, c ≠ stop := fun stop hstop heq => hc (heq ▸ hstop)
    exact templateLength.eq_6 c cs (hne _ (by decide))
      (fun _ heq => absurd heq (hne _ (by decide))) (hne _ (by decide))
  single := by
    intro c cs other length hbackslash hmarks hread hother
    rw [endsOf_mark hopening] at hmarks
    refine templateLength.eq_6 c other (fun heq => ?_) (fun tail heq htail => ?_) hbackslash
    · exact hmarks ['\x60'] (by decide) (List.cons_prefix_cons.mpr ⟨heq.symm, List.nil_prefix⟩)
    · -- a brace behind a dollar would have closed the literal before it was cut
      refine hother.head?_ne rfl (fun hbrace => ?_) (congrArg List.head? htail)
      obtain ⟨rest, rfl⟩ := List.head?_eq_some_iff.mp hbrace
      exact hmarks ['$', '\x7b'] (by decide) (heq ▸ ⟨rest, rfl⟩)
  escape := by
    intro first cs count hescape
    rw [templateLength, hescape]
  fault := by
    intro first cs cause hescape
    rw [templateLength, hescape]
  whole := templateEscape_whole
  readable := templateEscape_of_readable
  refused := templateEscape_refused
  closing := by
    intro mark hmark after
    rw [endsOf_mark hopening] at hmark
    rcases List.mem_pair.mp hmark with rfl | rfl
    · exact templateLength.eq_2 after
    · exact templateLength.eq_3 after

/-! ## Whole sequences, and a cut one -/

theorem Unclosed.drop {marks : List (List Char)} {body : List Char} (h : Unclosed marks body)
    {count : Nat} (hparts : ∀ c ∈ body.take count, isEscapePart c = true) :
    Unclosed marks (body.drop count) := by
  induction count generalizing body with
  | zero => exact h
  | succ count ih =>
    cases h with
    | nil => exact .nil
    | escaped c hrest => exact absurd (hparts '\\' List.mem_cons_self) (by decide)
    | plain hc hmarks hrest =>
      exact ih hrest fun d hd => hparts d (List.mem_cons_of_mem _ hd)

section Reader

variable {kind : LexemeKind} {opening : Char}
  {escapeOf : Char → List Char → Except Cause Nat} {read : List Char → Except Fault Nat}
  {first : Char} {body after other run kept part : List Char} {length : Nat}

theorem Reader.plains (hr : Reader kind opening escapeOf read) (hrun : ∀ c ∈ run, IsPlain c)
    (cs : List Char) : read (run ++ cs) = advance run.length (read cs) := by
  induction run with
  | nil => exact (advance_zero _).symm
  | cons c run ih =>
    obtain ⟨hc, hrun⟩ := List.forall_mem_cons.mp hrun
    rw [List.cons_append, hr.plain hc, ih hrun, advance_advance, List.length_cons, Nat.add_comm]

/-- An escape is read with all that belongs to it and with what is read on behind it. -/
theorem Reader.passesOver (hr : Reader kind opening escapeOf read)
    (h : PassesOver escapeOf first run other) :
    read ('\\' :: first :: (run ++ other)) = advance (run.length + 2) (read other) := by
  obtain ⟨count, hescape, hle, hrun⟩ := h
  rw [hr.escape hescape, List.drop_append_of_le_length hle, hr.plains hrun, advance_advance,
    List.length_drop]
  congr 1
  omega

theorem Reader.exists_escape (hr : Reader kind opening escapeOf read) {cs : List Char}
    (h : read ('\\' :: first :: cs) = .ok length) : ∃ count, escapeOf first cs = .ok count := by
  cases hescape : escapeOf first cs with
  | error cause =>
    rw [hr.fault hescape] at h
    cases h
  | ok count => exact ⟨count, rfl⟩

/-- An escape of a body is read with all that belongs to it, whatever stands behind. -/
theorem Reader.sequence (hr : Reader kind opening escapeOf read) {cs : List Char}
    (hafter : ∀ c ∈ after.head?, isEscapePart c = false)
    (hread : read ('\\' :: first :: (cs ++ after)) = .ok length)
    (hother : SameStart other (cs.drop (escapeRest first cs) ++ after)) :
    read ('\\' :: first :: (cs.take (escapeRest first cs) ++ other))
      = advance (escapeRest first cs + 2) (read other) := by
  have hle := escapeRest_le first cs
  obtain ⟨count, hescape⟩ := hr.exists_escape hread
  have hpasses : PassesOver escapeOf first (cs.take (escapeRest first cs)) other := by
    rw [← escapeRest_append hafter, ← List.drop_append_of_le_length] at hother
    · have hwhole := hr.whole hescape hother
      rwa [escapeRest_append hafter, List.take_append_of_le_length hle] at hwhole
    · rwa [escapeRest_append hafter]
  rw [hr.passesOver hpasses, List.length_take, Nat.min_eq_left hle]

/-- **Whole sequences are read one after the other**, whatever stands behind them. -/
theorem Reader.front (hr : Reader kind opening escapeOf read)
    (hafter : ∀ c ∈ after.head?, isEscapePart c = false)
    (hbody : Unclosed (endsOf opening) body) (hread : read (body ++ after) = .ok length)
    {front back : List (List Char)} (hseq : sequences body = front ++ back)
    (hother : SameStart other (back.flatten ++ after)) :
    read (front.flatten ++ other) = advance front.flatten.length (read other) := by
  have hbrace : after.head? ≠ some '\x7b' := fun heq => absurd (hafter _ heq) (by decide)
  fun_induction sequences body generalizing front length with
  | case1 =>
    obtain ⟨rfl, -⟩ := List.append_eq_nil_iff.mp hseq.symm
    exact (advance_zero _).symm
  | case2 first cs ih =>
    rcases List.cons_eq_append_iff.mp hseq with ⟨rfl, -⟩ | ⟨front, rfl, hfront⟩
    · exact (advance_zero _).symm
    · have hrest : cs.drop (escapeRest first cs) = front.flatten ++ back.flatten := by
        rw [← flatten_sequences (cs.drop _), hfront, List.flatten_append]
      rw [List.cons_append, List.cons_append] at hread
      -- what stands behind the escape is read as before, so the induction goes on there
      have hbehind := hr.sequence hafter hread (SameStart.refl _)
      rw [← List.append_assoc, List.take_append_drop, hread] at hbehind
      obtain ⟨behind, hbehind, -⟩ := advance_eq_ok hbehind.symm
      have hunclosed : Unclosed (endsOf opening) cs := by
        cases hbody with
        | escaped c hrest => exact hrest
        | plain hc => exact absurd rfl hc
      have hfronts := ih (hunclosed.drop (escapeRest_parts first cs)) hbehind hfront
      have hsame : SameStart (front.flatten ++ other) (cs.drop (escapeRest first cs) ++ after) := by
        rw [hrest, List.append_assoc]
        exact hother.append_left _
      rw [List.flatten_cons, List.append_assoc, List.cons_append, List.cons_append,
        hr.sequence hafter hread hsame, hfronts, advance_advance, List.length_append,
        List.length_cons, List.length_cons, List.length_take,
        Nat.min_eq_left (escapeRest_le first cs)]
  | case3 c cs hplain ih =>
    rcases List.cons_eq_append_iff.mp hseq with ⟨rfl, -⟩ | ⟨front, rfl, hfront⟩
    · exact (advance_zero _).symm
    · have hrest : cs = front.flatten ++ back.flatten := by
        rw [← flatten_sequences cs, hfront, List.flatten_append]
      rw [List.cons_append] at hread
      obtain ⟨hc, hmarks, hunclosed⟩ : c ≠ '\\' ∧
          (∀ mark ∈ endsOf opening, ¬ mark <+: c :: (cs ++ after)) ∧
          Unclosed (endsOf opening) cs := by
        cases hbody with
        | escaped first hrest => exact absurd rfl (hplain first _ rfl)
        | plain hc hmarks hrest =>
          exact ⟨hc, fun mark hmark hmet =>
            hmarks mark hmark (prefix_of_prefix_append hmark hbrace hmet), hrest⟩
      have hbehind := hr.single hc hmarks hread (SameStart.refl _)
      rw [hread] at hbehind
      obtain ⟨behind, hbehind, -⟩ := advance_eq_ok hbehind.symm
      have hfronts := ih hunclosed hbehind hfront
      have hsame : SameStart (front.flatten ++ other) (cs ++ after) := by
        conv_rhs => rw [hrest, List.append_assoc]
        exact hother.append_left _
      rw [List.flatten_cons, List.append_assoc, List.singleton_append,
        hr.single hc hmarks hread hsame, hfronts, advance_advance, List.length_append,
        List.length_singleton]

/-- **A cut body is read as far as the cut exactly if what it keeps of the parted sequence is
readable.** -/
theorem Reader.cut (hr : Reader kind opening escapeOf read)
    (hafter : ∀ c ∈ after.head?, isEscapePart c = false)
    (hbody : Unclosed (endsOf opening) body) (hread : read (body ++ after) = .ok length)
    (hparts : Parts body kept part) (hbackslash : part ≠ ['\\']) (hdot : other.head? = some '.') :
    (Readable kind part → read (kept ++ other) = advance kept.length (read other)) ∧
      (¬ Readable kind part → ∃ fault, read (kept ++ other) = .error fault) := by
  obtain ⟨front, rest, back, hseq, rfl, hrest⟩ := hparts
  by_cases hpart : part = []
  · subst hpart
    refine ⟨fun _ => ?_, fun hnot => absurd (.whole kind) hnot⟩
    rw [List.append_nil]
    exact hr.front hafter hbody hread hseq (Or.inr (isEscapePart_dot hdot))
  · obtain ⟨first, cs, count, htext, hcount, rfl⟩ :=
      exists_escape_of_parted hseq hrest hpart hbackslash
    have hfront : ∀ x, SameStart x ('\\' :: first :: (cs ++ after)) →
        read (front.flatten ++ x) = advance front.flatten.length (read x) := fun x hx =>
      hr.front hafter hbody hread hseq (by rwa [htext])
    have hwhole : body ++ after = front.flatten ++ '\\' :: first :: (cs ++ after) := by
      rw [← flatten_sequences body, hseq, List.flatten_append, htext, List.append_assoc]
      rfl
    rw [hwhole, hfront _ (SameStart.refl _)] at hread
    obtain ⟨behind, hbehind, -⟩ := advance_eq_ok hread
    obtain ⟨escape, hescape⟩ := hr.exists_escape hbehind
    have htake : (cs ++ after).take count = cs.take count :=
      List.take_append_of_le_length (Nat.le_of_lt (hcount.trans_le (escapeRest_le first cs)))
    have hpart : read (front.flatten ++ '\\' :: first :: (cs.take count ++ other))
        = advance front.flatten.length (read ('\\' :: first :: (cs.take count ++ other))) :=
      hfront _ (Or.inl rfl)
    rw [List.append_assoc, List.cons_append, List.cons_append, hpart]
    constructor
    · intro hreadable
      rw [hr.passesOver (hr.readable hreadable hdot), advance_advance, List.length_append]
      rfl
    · intro hreadable
      rw [← escapeRest_append hafter] at hcount
      rw [← htake] at hreadable ⊢
      obtain ⟨cause, hcause⟩ := hr.refused hescape hcount hdot hreadable
      rw [hr.fault hcause]
      exact ⟨_, rfl⟩

/-- The note and the closing mark behind it are read up to the end of the literal. -/
theorem Reader.note (hr : Reader kind opening escapeOf read) {closing : List Char}
    (hclosing : closing ∈ endsOf opening) (count : Nat) (after : List Char) :
    read (cutMark count ++ (closing ++ after)) = .ok (cutMark count ++ closing).length := by
  rw [hr.plains fun c hc => isPlain_of_mem_cutMark hc, hr.closing hclosing, advance_length]

end Reader

end VmScan.Script
