import VmScan.Proofs.Json.Limits

/-!
# How a text has been read

What a reader has read shows how the text is built: where its parts stand, with what each of them
starts, and which mark ends it.

* `GoesOn` — a text that neither ends nor is cut short inside an escape.
* `WordValue` — a word that is a value.
* `ValueReading` — the ways in which a value is read.
* `IsVisible` — a character that ASCII shows.

Results:
* `Reads.items_cases`, `Reads.member_cases`, `Reads.members_cases`, `Reads.array_cases`,
  `Reads.object_cases`: the parts of a container.
* `Reads.value_cases`: a value is read in one of these ways.
* `Reads.startsNumber`, `Reads.visible`: how a number and a value start.
* `decode_eq_ok_iff`: a whole text.
-/

namespace VmScan.Json

open VmScan.Number VmScan.Text

variable {runtime : Runtime}

section Readers

variable {α : Type} {reader : Reader α} {value : α} {input rest : List Char}

/-- A reader reads something. -/
theorem Reads.ne_nil (h : Reads reader input value rest) : input ≠ [] := by
  rintro rfl
  obtain ⟨parsed, -⟩ := h
  exact absurd parsed.shorter (Nat.not_lt_zero _)

/-- What is read and shown otherwise has been read as it is. -/
theorem reads_of_map {β : Type} {f : α → β} {longer : List Char}
    {hlonger : input.length ≤ longer.length} {parsed : Parsed β longer}
    (h : (reader input).map (·.behind f hlonger) = .ok parsed) :
    ∃ value, Reads reader input value parsed.rest ∧ parsed.value = f value := by
  cases hread : reader input with
  | error stop => rw [hread] at h; cases h
  | ok read =>
    rw [hread] at h
    cases h
    exact ⟨read.value, ⟨read, hread, rfl, rfl⟩, rfl⟩

end Readers

/-! ## Strings -/

section Strings

variable {input rest cs opening : List Char} {c : Char}

/-- The text goes on, and an escape at its start is not cut short. -/
structure GoesOn (rest : List Char) : Prop where
  nonempty : rest ≠ []
  escape : rest ≠ ['\\']
  digits : ∀ digits, rest = '\\' :: 'u' :: digits → 5 ≤ digits.length

theorem length_of_reads_unicode (h : Reads (readUnicode runtime) input c rest) :
    6 ≤ input.length := by
  obtain ⟨parsed, h, -⟩ := h
  unfold readUnicode at h
  split at h
  · simp
  · cases h

/-- Where a string is read, the text goes on. -/
theorem Reads.goesOn (h : Reads (readString runtime opening) input cs rest) : GoesOn input where
  nonempty := h.ne_nil
  escape := by
    rintro rfl
    obtain ⟨parsed, h, -⟩ := h
    rw [readString] at h
    cases h
  digits := by
    rintro digits rfl
    obtain ⟨parsed, h, -⟩ := h
    rw [readString] at h
    cases hunicode : readUnicode runtime ('u' :: digits) with
    | error stop => rw [hunicode] at h; cases h
    | ok char =>
      exact Nat.le_of_succ_le_succ (length_of_reads_unicode ⟨char, hunicode, rfl, rfl⟩)

end Strings

/-! ## Containers -/

section Containers

variable {input rest : List Char} {reader : Reader Value}

/-- How items are read: a last item in front of the closing bracket, or one in front of a comma. -/
theorem Reads.items_cases {values : List Value} (h : Reads (readItems reader) input values rest) :
    ∃ value behind, Reads reader input value behind ∧
      ((values = [value] ∧ skipBlank behind = ']' :: rest) ∨
        ∃ tail more, values = value :: more ∧ skipBlank behind = ',' :: tail ∧
          (skipBlank tail).length < input.length ∧
          Reads (readItems reader) (skipBlank tail) more rest) := by
  obtain ⟨parsed, h, rfl, rfl⟩ := h
  cases hfirst : reader input with
  | error stop => rw [readItems, hfirst] at h; cases h
  | ok first =>
    refine ⟨first.value, first.rest, ⟨first, hfirst, rfl, rfl⟩, ?_⟩
    have hshort := first.shorter
    have hblank := length_skipBlank_le first.rest
    rw [readItems, hfirst] at h
    simp only at h
    split at h
    · next tail hclose =>
      cases h
      exact Or.inl ⟨rfl, hclose⟩
    · next tail hcomma =>
      have htail := length_skipBlank_le tail
      rw [hcomma, List.length_cons] at hblank
      split at h
      · cases h
      · next hmore =>
        cases h
        exact Or.inr ⟨tail, _, rfl, hcomma, by omega, _, hmore, rfl, rfl⟩
    · cases h

/-- How a member is read: a name, a colon, and a value behind it. -/
theorem Reads.member_cases {member : String × Value}
    (h : Reads (readMember runtime reader) input member rest) :
    ∃ opened name tail behind value, input = '"' :: opened ∧
      member = (String.ofList name, value) ∧ Reads (readString runtime input) opened name tail ∧
      skipBlank tail = ':' :: behind ∧ Reads reader (skipBlank behind) value rest := by
  obtain ⟨parsed, h, rfl, rfl⟩ := h
  unfold readMember at h
  split at h
  · next opened =>
    split at h
    · cases h
    · next hname =>
      simp only at h
      split at h
      · next behind hcolon =>
        split at h
        · cases h
        · next hvalue =>
          cases h
          exact ⟨_, _, _, behind, _, rfl, rfl, ⟨_, hname, rfl, rfl⟩, hcolon, _, hvalue, rfl, rfl⟩
      · cases h
  · cases h

/-- How members are read: a last one in front of the closing brace, or one in front of a comma. -/
theorem Reads.members_cases {members : Members}
    (h : Reads (readMembers runtime reader) input members rest) :
    ∃ member behind, Reads (readMember runtime reader) input member behind ∧
      ((members = [member] ∧ skipBlank behind = '\x7d' :: rest) ∨
        ∃ tail more, members = member :: more ∧ skipBlank behind = ',' :: tail ∧
          (skipBlank tail).length < input.length ∧
          Reads (readMembers runtime reader) (skipBlank tail) more rest) := by
  obtain ⟨parsed, h, rfl, rfl⟩ := h
  cases hfirst : readMember runtime reader input with
  | error stop => rw [readMembers, hfirst] at h; cases h
  | ok first =>
    refine ⟨first.value, first.rest, ⟨first, hfirst, rfl, rfl⟩, ?_⟩
    have hshort := first.shorter
    have hblank := length_skipBlank_le first.rest
    rw [readMembers, hfirst] at h
    simp only at h
    split at h
    · next tail hclose =>
      cases h
      exact Or.inl ⟨rfl, hclose⟩
    · next tail hcomma =>
      have htail := length_skipBlank_le tail
      rw [hcomma, List.length_cons] at hblank
      split at h
      · cases h
      · next hmore =>
        cases h
        exact Or.inr ⟨tail, _, rfl, hcomma, by omega, _, hmore, rfl, rfl⟩
    · cases h

/-- How an array is read: the closing bracket at once, or items. -/
theorem Reads.array_cases {value : Value} (h : Reads (readArray reader) input value rest) :
    (value = .array [] ∧ skipBlank input = ']' :: rest) ∨
      ∃ values, value = .array values ∧ (∀ tail, skipBlank input ≠ ']' :: tail) ∧
        Reads (readItems reader) (skipBlank input) values rest := by
  obtain ⟨parsed, h, rfl, rfl⟩ := h
  unfold readArray at h
  split at h
  · next tail hclose =>
    cases h
    exact Or.inl ⟨rfl, hclose⟩
  · next hopen =>
    split at h
    · cases h
    · next hitems =>
      cases h
      exact Or.inr ⟨_, rfl, hopen, _, hitems, rfl, rfl⟩

/-- How an object is read: the closing brace at once, or members. -/
theorem Reads.object_cases {value : Value}
    (h : Reads (readObject runtime reader) input value rest) :
    (value = .object [] ∧ skipBlank input = '\x7d' :: rest) ∨
      ∃ members, value = .object (collectMembers members) ∧
        (∀ tail, skipBlank input ≠ '\x7d' :: tail) ∧
        Reads (readMembers runtime reader) (skipBlank input) members rest := by
  obtain ⟨parsed, h, rfl, rfl⟩ := h
  unfold readObject at h
  split at h
  · next tail hclose =>
    cases h
    exact Or.inl ⟨rfl, hclose⟩
  · next hopen =>
    split at h
    · cases h
    · next hmembers =>
      cases h
      exact Or.inr ⟨_, rfl, hopen, _, hmembers, rfl, rfl⟩

end Containers

/-! ## Values -/

section Values

variable {input rest text : List Char} {value : Value} {inner : Option (Reader Value)}

/-- The words that are values. -/
inductive WordValue : List Char → Value → Prop
  | null : WordValue ['n', 'u', 'l', 'l'] .null
  | true : WordValue ['t', 'r', 'u', 'e'] (.bool true)
  | false : WordValue ['f', 'a', 'l', 's', 'e'] (.bool false)
  | nan : WordValue ['N', 'a', 'N'] (.float .nan)
  | infinity : WordValue ['I', 'n', 'f', 'i', 'n', 'i', 't', 'y'] (.float (.infinity Bool.false))
  | minusInfinity :
      WordValue ['-', 'I', 'n', 'f', 'i', 'n', 'i', 't', 'y'] (.float (.infinity Bool.true))

theorem WordValue.reads (h : WordValue text value) (rest : List Char) :
    Reads (readValueWith runtime inner) (text ++ rest) value rest := by
  cases h <;> exact ⟨_, rfl, rfl, rfl⟩

/-- How a value is read: as a word, or by the reader for what it starts with. -/
inductive ValueReading (runtime : Runtime) (inner : Option (Reader Value)) (input : List Char)
    (value : Value) (rest : List Char) : Prop
  | word {text : List Char} (hword : WordValue text value) (hinput : input = text ++ rest)
  | string {opened cs} (hinput : input = '"' :: opened)
      (hvalue : value = .string (String.ofList cs))
      (hstring : Reads (readString runtime ('"' :: opened)) opened cs rest)
  | array {reader opened} (hinner : inner = some reader) (hinput : input = '[' :: opened)
      (harray : Reads (readArray reader) opened value rest)
  | object {reader opened} (hinner : inner = some reader) (hinput : input = '\x7b' :: opened)
      (hobject : Reads (readObject runtime reader) opened value rest)
  | number (hnumber : Reads readNumber input value rest)

/-- **Every value is read in one of these ways.** -/
theorem Reads.value_cases (h : Reads (readValueWith runtime inner) input value rest) :
    ValueReading runtime inner input value rest := by
  obtain ⟨parsed, hread, rfl, rfl⟩ := h
  unfold readValueWith at hread
  split at hread
  case h_1 => cases hread; exact .word .null rfl
  case h_2 => cases hread; exact .word .true rfl
  case h_3 => cases hread; exact .word .false rfl
  case h_4 => cases hread; exact .word .nan rfl
  case h_5 => cases hread; exact .word .infinity rfl
  case h_6 => cases hread; exact .word .minusInfinity rfl
  case h_7 =>
    obtain ⟨cs, hstring, hvalue⟩ := reads_of_map hread
    exact .string rfl hvalue hstring
  case h_8 =>
    cases inner with
    | none => cases hread
    | some reader =>
      obtain ⟨array, harray, hvalue⟩ := reads_of_map hread
      exact .array rfl rfl (hvalue ▸ harray)
  case h_9 =>
    cases inner with
    | none => cases hread
    | some reader =>
      obtain ⟨object, hobject, hvalue⟩ := reads_of_map hread
      exact .object rfl rfl (hvalue ▸ hobject)
  case h_10 => exact .number ⟨parsed, hread, rfl, rfl⟩

end Values

/-! ## How values start -/

section Starts

variable {input rest : List Char} {value : Value}

/-- What has digits in front starts with one. -/
theorem exists_digit_of_splitWhole {body : List Char} (h : (splitWhole body).1 ≠ []) :
    ∃ digit rest, isAsciiDigit digit = true ∧ body = digit :: rest := by
  cases body with
  | nil => exact absurd rfl h
  | cons c cs =>
    refine ⟨c, cs, ?_, rfl⟩
    by_cases hzero : c = '0'
    · subst hzero
      rfl
    · rw [splitWhole, if_neg hzero] at h
      by_contra hdigit
      exact h (List.takeWhile_cons_of_neg hdigit)

/-- A number that is read starts with a digit, perhaps behind a sign. -/
theorem Reads.startsNumber (h : Reads readNumber input value rest) : StartsNumber input := by
  obtain ⟨parsed, h, -⟩ := h
  obtain ⟨negative, body, hnegative, hsigned, hinput⟩ := exists_sign input
  unfold readNumber at h
  simp only [hsigned] at h
  split at h
  · cases h
  · next hwhole =>
    obtain ⟨digit, behind, hdigit, rfl⟩ := exists_digit_of_splitWhole hwhole
    refine ⟨digit, behind, hdigit, ?_⟩
    cases negative with
    | true => exact Or.inr hinput
    | false => exact Or.inl hinput

/-- Whether the character is one of those that ASCII shows. -/
def IsVisible (c : Char) : Prop :=
  0x20 < c.toNat ∧ c.toNat < 0x7F

theorem IsVisible.ne_byteOrderMark {c : Char} (h : IsVisible c) : c ≠ Char.ofNat 0xFEFF := by
  rintro rfl
  exact absurd h.2 (by decide)

theorem IsVisible.not_blank {c : Char} (h : IsVisible c) : isBlank c = false := by
  rw [Bool.eq_false_iff]
  intro hblank
  simp only [isBlank, Bool.or_eq_true, decide_eq_true_eq] at hblank
  obtain ((rfl | rfl) | rfl) | rfl := hblank <;> exact absurd h.1 (by decide)

theorem StartsNumber.visible (h : StartsNumber input) : ∃ c cs, input = c :: cs ∧ IsVisible c := by
  obtain ⟨digit, rest, hdigit, rfl | rfl⟩ := h
  · rw [isAsciiDigit, Bool.and_eq_true, decide_eq_true_eq, decide_eq_true_eq] at hdigit
    exact ⟨digit, rest, rfl, Nat.lt_of_lt_of_le (by decide) hdigit.1,
      Nat.lt_of_le_of_lt hdigit.2 (by decide)⟩
  · exact ⟨_, _, rfl, by decide, by decide⟩

/-- **Every value starts with a visible character.** -/
theorem Reads.visible {depth : Nat} (h : Reads (readValue runtime depth) input value rest) :
    ∃ c cs, input = c :: cs ∧ IsVisible c := by
  obtain ⟨inner, hinner⟩ := exists_readValue_eq runtime depth
  rw [hinner] at h
  cases h.value_cases with
  | word hword hinput =>
    subst hinput
    cases hword <;> exact ⟨_, _, rfl, by decide, by decide⟩
  | string hinput | array _ hinput | object _ hinput =>
    subst hinput
    exact ⟨_, _, rfl, by decide, by decide⟩
  | number hnumber => exact hnumber.startsNumber.visible

end Starts

/-! ## Whole texts -/

/-- What a text is decoded as: the value behind its leading blanks, with only blanks behind it. -/
theorem decode_eq_ok_iff {text : List Char} {value : Value} : decode runtime text = .ok value ↔
    text.head? ≠ some (Char.ofNat 0xFEFF) ∧ ∃ rest,
      Reads (readValue runtime runtime.depth) (skipBlank text) value rest ∧
        skipBlank rest = [] := by
  unfold decode
  by_cases hmark : text.head? = some (Char.ofNat 0xFEFF)
  · rw [if_pos hmark]
    exact iff_of_false nofun fun h => h.1 hmark
  rw [if_neg hmark]
  constructor
  · intro h
    refine ⟨hmark, ?_⟩
    split at h
    · cases h
    · next parsed hread =>
      split at h
      · next hblank =>
        cases h
        exact ⟨parsed.rest, ⟨parsed, hread, rfl, rfl⟩, hblank⟩
      · cases h
  · rintro ⟨-, rest, ⟨parsed, hread, rfl, rfl⟩, hrest⟩
    rw [hread]
    simp only [hrest]

end VmScan.Json
