import VmScan.Proofs.Json.Readings

/-!
# Blanks around a text

Blanks in front of a text are skipped, and blanks behind it are left over. Neither changes what is
read: behind the text they end a number, and everything else that is read ends with a mark of its
own.

* `IsBlanks` — a row of blanks.
* `ReadsBefore` — what a reader reads, it reads in front of the blanks as well.
* `SplitsBefore` — what is split off a text does not depend on the blanks behind it.

Results:
* `reads_string_append`: a string, in front of anything.
* `readsBefore_number`: a number, part by part.
* `ReadsBefore.items`, `ReadsBefore.members`: the inside of a container, along its parts.
* `readsBefore_readValue`: a value, by induction on the depth.
* `decode_amid_blanks`: a whole text.
-/

namespace VmScan.Json

open VmScan.Number VmScan.Text

variable {runtime : Runtime}

/-- All characters of the row are blanks. -/
def IsBlanks (blanks : List Char) : Prop :=
  ∀ c ∈ blanks, isBlank c = true

/-- What the reader reads, it reads in front of the blanks as well. -/
def ReadsBefore {α : Type} (blanks : List Char) (reader : Reader α) : Prop :=
  ∀ {input value rest}, Reads reader input value rest →
    Reads reader (input ++ blanks) value (rest ++ blanks)

section Marks

variable {blanks input rest tail : List Char}

theorem skipBlank_append {c : Char} (h : skipBlank rest = c :: tail) (more : List Char) :
    skipBlank (rest ++ more) = c :: (tail ++ more) := by
  rw [skipBlank, List.dropWhile_append, ← skipBlank, h, if_neg (by simp), List.cons_append]

/-- Where something is read behind blanks, more text behind it leaves these blanks alone. -/
theorem Reads.skipBlank_append {α : Type} {reader : Reader α} {value : α}
    (h : Reads reader (skipBlank input) value rest) (more : List Char) :
    skipBlank (input ++ more) = skipBlank input ++ more := by
  obtain ⟨c, tail, hcons⟩ := List.exists_cons_of_ne_nil h.ne_nil
  rw [hcons, Json.skipBlank_append hcons, List.cons_append]

/-- What does not start with the mark behind its blanks does not do so with more text behind it. -/
theorem Reads.skipBlank_append_ne {α : Type} {reader : Reader α} {value : α}
    (h : Reads reader (skipBlank input) value rest) {mark : Char}
    (hopen : ∀ tail, skipBlank input ≠ mark :: tail) (more : List Char) :
    ∀ tail, skipBlank (input ++ more) ≠ mark :: tail := by
  intro tail
  obtain ⟨c, cs, hcons⟩ := List.exists_cons_of_ne_nil h.ne_nil
  rw [h.skipBlank_append, hcons, List.cons_append, ne_eq, List.cons.injEq]
  rintro ⟨rfl, -⟩
  exact hopen cs hcons

theorem skipBlank_eq_nil (h : IsBlanks blanks) : skipBlank blanks = [] :=
  List.dropWhile_eq_nil_iff.mpr h

theorem skipBlank_blanks_append (h : IsBlanks blanks) (rest : List Char) :
    skipBlank (blanks ++ rest) = skipBlank rest :=
  List.dropWhile_append_of_pos h

/-- What blanks are not: digits, and the marks and signs of numbers. -/
theorem IsBlanks.head_ne (h : IsBlanks blanks) {c : Char} (hc : c ∈ blanks.head?) :
    isAsciiDigit c = false ∧ c ≠ '.' ∧ c ≠ 'e' ∧ c ≠ 'E' ∧ c ≠ '-' ∧ c ≠ '+' := by
  have hblank := h c (List.mem_of_mem_head? hc)
  simp only [isBlank, Bool.or_eq_true, decide_eq_true_eq] at hblank
  obtain ((rfl | rfl) | rfl) | rfl := hblank <;> decide

theorem IsBlanks.endsNumber (h : IsBlanks blanks) : EndsNumber blanks := fun _ hc =>
  have hne := h.head_ne hc
  ⟨hne.1, hne.2.1, hne.2.2.1, hne.2.2.2.1⟩

end Marks

/-! ## Strings -/

section Strings

variable {input rest cs opening : List Char} {c : Char}

/-- What has been read, with more text behind it. -/
def Parsed.inFront {α : Type} {input : List Char} (parsed : Parsed α input) (more : List Char) :
    Parsed α (input ++ more) :=
  ⟨parsed.value, parsed.rest ++ more, by
    rw [List.length_append, List.length_append]
    exact Nat.add_lt_add_right parsed.shorter _⟩

/-- Where the text goes on, the second half of a surrogate pair is found in it or not at all. -/
theorem readLowHalf_append {low : Option (Parsed Nat input)} (hinput : low = none → GoesOn input)
    (h : readLowHalf input = .ok low) (more : List Char) :
    readLowHalf (input ++ more) = .ok (low.map (·.inFront more)) := by
  unfold readLowHalf at h
  split at h
  · simp only [List.cons_append, readLowHalf]
    split at h
    · cases h
    · split at h <;> cases h
      · next hlow =>
        simp only [hlow, if_true]
        rfl
      · next hlow =>
        simp only [hlow]
        rfl
  · next hother =>
    cases h
    rw [readLowHalf]
    · rfl
    · intro a b d e next behind heq
      have hinput := hinput rfl
      match input, hinput, hother with
      | [], hinput, _ => exact hinput.nonempty rfl
      | [c], hinput, _ => exact hinput.escape (by rw [(List.cons.inj heq).1])
      | c :: u :: digits, hinput, hother =>
        simp only [List.cons_append, List.cons.injEq] at heq
        obtain ⟨rfl, rfl, -⟩ := heq
        have hlength := hinput.digits digits rfl
        match digits, hlength with
        | a :: b :: d :: e :: next :: behind, _ => exact hother a b d e next behind rfl

/-- An escape by number is read in front of anything, where the text goes on behind it. -/
theorem reads_unicode_append (h : Reads (readUnicode runtime) input c rest) (hrest : GoesOn rest)
    (more : List Char) : Reads (readUnicode runtime) (input ++ more) c (rest ++ more) := by
  obtain ⟨parsed, h, rfl, rfl⟩ := h
  unfold readUnicode at h
  split at h
  · next u a b d e next behind =>
    unfold Reads
    simp only [List.cons_append, readUnicode]
    split at h
    · cases h
    · split at h
      · next hhigh =>
        simp only [hhigh, if_true]
        split at h
        · cases h
        · next hlow =>
          cases h
          have hsame : readLowHalf (next :: (behind ++ more)) = .ok none :=
            readLowHalf_append (fun _ => hrest) hlow more
          rw [hsame]
          exact ⟨_, rfl, rfl, rfl⟩
        · next low rest shorter hlow =>
          obtain rfl := Except.ok.inj h
          have hsame : readLowHalf (next :: (behind ++ more))
              = .ok (some (Parsed.inFront ⟨low, rest, shorter⟩ more)) :=
            readLowHalf_append (fun hnone => absurd hnone (Option.some_ne_none _)) hlow more
          rw [hsame]
          exact ⟨_, rfl, rfl, rfl⟩
      · next hhigh =>
        cases h
        simp only [hhigh]
        exact ⟨_, rfl, rfl, rfl⟩
  · cases h

/-- **A string is read in front of anything.** -/
theorem reads_string_append (h : Reads (readString runtime opening) input cs rest)
    (other more : List Char) :
    Reads (readString runtime other) (input ++ more) cs (rest ++ more) := by
  obtain ⟨parsed, h, rfl, rfl⟩ := h
  fun_induction readString runtime opening input with
  | case1 | case3 | case4 | case5 | case7 | case8 | case10 | case11 => cases h
  | case2 rest =>
    cases h
    exact reads_quote other _
  | case6 digits c rest shorter hchar cs rest' shorter' hrest ih =>
    cases h
    have hread := ih _ hrest
    have hgoes := Reads.goesOn ⟨_, hrest, rfl, rfl⟩
    exact (reads_unicode_append ⟨_, hchar, rfl, rfl⟩ hgoes more).numberEscape hread
  | case9 letter rest hletter c hchar cs rest' shorter hrest ih =>
    cases h
    exact (ih _ hrest).letterEscape hchar
  | case12 c rest hquote hlone hunicode hslash hspace cs rest' shorter hrest ih =>
    cases h
    have hread := ih _ hrest
    refine Reads.plainChar hquote ?_ hspace hread
    rintro rfl
    cases rest with
    | nil => exact hlone rfl rfl
    | cons letter tail => exact hslash letter tail rfl rfl

end Strings

/-! ## Numbers -/

section Numbers

variable {blanks : List Char}

/-- What is split off from the start of a text, and what is left, do not depend on blanks behind the
text, which are left as well. -/
def SplitsBefore {α : Type} (blanks : List Char) (split : List Char → α × List Char) : Prop :=
  ∀ cs, split (cs ++ blanks) = ((split cs).1, (split cs).2 ++ blanks)

theorem splitsBefore_digits (h : IsBlanks blanks) :
    SplitsBefore blanks fun cs => (cs.takeWhile isAsciiDigit, cs.dropWhile isAsciiDigit) := by
  intro cs
  induction cs with
  | nil =>
    simp only [List.nil_append, takeWhile_isAsciiDigit h.endsNumber,
      dropWhile_isAsciiDigit h.endsNumber, List.takeWhile_nil, List.dropWhile_nil]
  | cons c cs ih =>
    by_cases hc : isAsciiDigit c = true
    · simp only [List.cons_append, List.takeWhile_cons_of_pos hc, List.dropWhile_cons_of_pos hc]
      rw [Prod.mk.injEq] at ih ⊢
      exact ⟨congrArg _ ih.1, ih.2⟩
    · simp only [List.cons_append, List.takeWhile_cons_of_neg hc, List.dropWhile_cons_of_neg hc]

theorem splitWhole_of_ends {rest : List Char} (h : EndsNumber rest) :
    splitWhole rest = ([], rest) := by
  cases rest with
  | nil => rfl
  | cons c cs =>
    have hzero : c ≠ '0' := by
      rintro rfl
      exact absurd (h _ rfl).1 (by decide)
    rw [splitWhole, if_neg hzero, takeWhile_isAsciiDigit h, dropWhile_isAsciiDigit h]

theorem splitsBefore_whole (h : IsBlanks blanks) : SplitsBefore blanks splitWhole := by
  intro cs
  cases cs with
  | nil => exact splitWhole_of_ends h.endsNumber
  | cons c cs =>
    by_cases hzero : c = '0'
    · subst hzero
      rfl
    · rw [List.cons_append, splitWhole, splitWhole, if_neg hzero, if_neg hzero]
      exact splitsBefore_digits h (c :: cs)

theorem splitSign_of_ne {rest : List Char} (h : ∀ c ∈ rest.head?, c ≠ '-' ∧ c ≠ '+') :
    splitSign rest = (false, rest) := by
  unfold splitSign
  split
  · exact absurd rfl (h '-' rfl).1
  · exact absurd rfl (h '+' rfl).2
  · rfl

theorem splitsBefore_sign (h : IsBlanks blanks) : SplitsBefore blanks splitSign := by
  intro cs
  cases cs with
  | nil => exact splitSign_of_ne fun c hc => (h.head_ne hc).2.2.2.2
  | cons c cs =>
    by_cases hminus : c = '-'
    · subst hminus
      rfl
    · by_cases hplus : c = '+'
      · subst hplus
        rfl
      · have hne : ∀ rest, splitSign (c :: rest) = (false, c :: rest) := fun rest =>
          splitSign_of_ne fun d hd => Option.some.inj hd ▸ ⟨hminus, hplus⟩
        rw [List.cons_append, hne, hne, List.cons_append]

theorem splitsBefore_fraction (h : IsBlanks blanks) : SplitsBefore blanks splitFraction := by
  intro cs
  cases cs with
  | nil => exact splitFraction_of_ends h.endsNumber
  | cons c cs =>
    by_cases hpoint : c = '.'
    · subst hpoint
      obtain ⟨htake, hdrop⟩ := Prod.mk.inj (splitsBefore_digits h cs)
      rw [List.cons_append, splitFraction, splitFraction]
      simp only [htake, hdrop]
      split <;> rfl
    · rw [List.cons_append, splitFraction, splitFraction]
      · rfl
      all_goals exact fun rest heq => hpoint (List.cons.inj heq).1

theorem splitsBefore_exponent (h : IsBlanks blanks) : SplitsBefore blanks splitExponent := by
  intro cs
  cases cs with
  | nil => exact splitExponent_of_ends h.endsNumber
  | cons mark cs =>
    obtain ⟨htake, hdrop⟩ := Prod.mk.inj (splitsBefore_digits h (splitSign cs).2)
    rw [List.cons_append, splitExponent, splitExponent]
    simp only [splitsBefore_sign h cs, htake, hdrop]
    split
    · split <;> rfl
    · rfl

/-- **A number is read in front of blanks.** -/
theorem readsBefore_number (h : IsBlanks blanks) : ReadsBefore blanks readNumber := by
  intro input value rest hread
  obtain ⟨c, cs, rfl⟩ := List.exists_cons_of_ne_nil hread.ne_nil
  obtain ⟨parsed, hread, rfl, rfl⟩ := hread
  obtain ⟨negative, body, hnegative, hsigned, -⟩ := exists_sign (c :: cs)
  have hhead : (c :: cs ++ blanks).head? = (c :: cs).head? := rfl
  have hbody : (if (c :: cs).head? = some '-' then (c :: cs ++ blanks).drop 1
      else c :: cs ++ blanks) = body ++ blanks := by
    rw [← hsigned]
    split <;> rfl
  unfold Reads
  unfold readNumber at hread ⊢
  simp only [hhead, hnegative, hsigned, hbody, splitsBefore_whole h _, splitsBefore_fraction h _,
    splitsBefore_exponent h _] at hread ⊢
  split at hread
  · cases hread
  · next hwhole =>
    split at hread
    · cases hread
    · next hnumber =>
      cases hread
      simp only [hwhole, dite_false]
      exact ⟨_, rfl, rfl, rfl⟩

end Numbers

/-! ## Containers -/

section Containers

variable {blanks input rest : List Char} {reader : Reader Value}

/-- Items are read in front of blanks, if each of them is. -/
theorem ReadsBefore.items (h : ReadsBefore blanks reader) :
    ReadsBefore blanks (readItems reader) := by
  intro input values rest hread
  induction hn : input.length using Nat.strong_induction_on generalizing input values with
  | h n ih =>
    obtain ⟨value, behind, hfirst, hlast | ⟨tail, more, rfl, hcomma, hshort, hmore⟩⟩ :=
      hread.items_cases
    · obtain ⟨rfl, hclose⟩ := hlast
      exact (h hfirst).lastItem (skipBlank_append hclose blanks)
    · refine (h hfirst).nextItem (skipBlank_append hcomma blanks) ?_
      rw [hmore.skipBlank_append]
      exact ih _ (hn ▸ hshort) hmore rfl

/-- A member is read in front of blanks, if its value is. -/
theorem ReadsBefore.member (h : ReadsBefore blanks reader) :
    ReadsBefore blanks (readMember runtime reader) := by
  intro input member rest hread
  obtain ⟨opened, name, tail, behind, value, rfl, rfl, hname, hcolon, hvalue⟩ := hread.member_cases
  refine (reads_string_append hname _ blanks).nameAndValue (skipBlank_append hcolon blanks) ?_
  rw [hvalue.skipBlank_append]
  exact h hvalue

/-- Members are read in front of blanks, if their values are. -/
theorem ReadsBefore.members (h : ReadsBefore blanks reader) :
    ReadsBefore blanks (readMembers runtime reader) := by
  intro input members rest hread
  induction hn : input.length using Nat.strong_induction_on generalizing input members with
  | h n ih =>
    obtain ⟨member, behind, hfirst, hlast | ⟨tail, more, rfl, hcomma, hshort, hmore⟩⟩ :=
      hread.members_cases
    · obtain ⟨rfl, hclose⟩ := hlast
      exact (h.member hfirst).lastMember (skipBlank_append hclose blanks)
    · refine (h.member hfirst).nextMember (skipBlank_append hcomma blanks) ?_
      rw [hmore.skipBlank_append]
      exact ih _ (hn ▸ hshort) hmore rfl

theorem ReadsBefore.array (h : ReadsBefore blanks reader) :
    ReadsBefore blanks (readArray reader) := by
  intro input value rest hread
  rcases hread.array_cases with ⟨rfl, hclose⟩ | ⟨values, rfl, hopen, hitems⟩
  · exact reads_emptyArray (skipBlank_append hclose blanks)
  · refine Reads.array (hitems.skipBlank_append_ne hopen blanks) ?_
    rw [hitems.skipBlank_append]
    exact h.items hitems

theorem ReadsBefore.object (h : ReadsBefore blanks reader) :
    ReadsBefore blanks (readObject runtime reader) := by
  intro input value rest hread
  rcases hread.object_cases with ⟨rfl, hclose⟩ | ⟨members, rfl, hopen, hmembers⟩
  · exact reads_emptyObject (skipBlank_append hclose blanks)
  · refine Reads.object (hmembers.skipBlank_append_ne hopen blanks) ?_
    rw [hmembers.skipBlank_append]
    exact h.members hmembers

end Containers

/-! ## Values -/

section Values

variable {blanks input rest : List Char} {value : Value}

theorem StartsNumber.append (h : StartsNumber input) (more : List Char) :
    StartsNumber (input ++ more) := by
  obtain ⟨digit, rest, hdigit, rfl | rfl⟩ := h
  · exact ⟨digit, rest ++ more, hdigit, Or.inl rfl⟩
  · exact ⟨digit, rest ++ more, hdigit, Or.inr rfl⟩

/-- Values are read in front of blanks, if those in their containers are. -/
theorem readsBefore_readValueWith (h : IsBlanks blanks) {inner : Option (Reader Value)}
    (hinner : ∀ reader, inner = some reader → ReadsBefore blanks reader) :
    ReadsBefore blanks (readValueWith runtime inner) := by
  intro input value rest hread
  cases hread.value_cases with
  | word hword hinput =>
    rw [hinput, List.append_assoc]
    exact hword.reads _
  | string hinput hvalue hstring =>
    rw [hinput, hvalue]
    exact (reads_string_append hstring _ blanks).stringValue
  | array hreader hinput harray =>
    rw [hinput, hreader]
    exact (ReadsBefore.array (hinner _ hreader) harray).arrayValue
  | object hreader hinput hobject =>
    rw [hinput, hreader]
    exact (ReadsBefore.object (hinner _ hreader) hobject).objectValue
  | number hnumber =>
    exact (readsBefore_number h hnumber).number (hnumber.startsNumber.append blanks)

/-- **A value is read in front of blanks**, at any depth. -/
theorem readsBefore_readValue (h : IsBlanks blanks) (depth : Nat) :
    ReadsBefore blanks (readValue runtime depth) := by
  induction depth with
  | zero => exact readsBefore_readValueWith h fun reader hnone => absurd hnone (by simp)
  | succ depth ih =>
    refine readsBefore_readValueWith h fun reader hreader => ?_
    cases hreader
    exact ih

end Values

/-! ## Whole texts -/

section Texts

variable {text input rest lead trail : List Char} {value : Value}

/-- **A text is decoded amid blanks as it is without them.** -/
theorem decode_amid_blanks (h : decode runtime text = .ok value) (hlead : IsBlanks lead)
    (htrail : IsBlanks trail) : decode runtime (lead ++ (skipBlank text ++ trail)) = .ok value := by
  obtain ⟨-, rest, hread, hrest⟩ := decode_eq_ok_iff.mp h
  obtain ⟨c, cs, hstart, hvisible⟩ := hread.visible
  have hskip : skipBlank (lead ++ (skipBlank text ++ trail)) = skipBlank text ++ trail := by
    rw [skipBlank_blanks_append hlead, hstart, List.cons_append,
      skipBlank_of_not_blank hvisible.not_blank]
  refine decode_eq_ok_iff.mpr ⟨?_, rest ++ trail, ?_, ?_⟩
  · rw [hstart]
    cases lead with
    | nil => exact fun hmark => hvisible.ne_byteOrderMark (Option.some.inj hmark)
    | cons blank lead =>
      rintro hmark
      rw [List.cons_append, List.head?_cons, Option.some.injEq] at hmark
      exact absurd (hlead blank List.mem_cons_self) (by rw [hmark]; decide)
  · rw [hskip]
    exact readsBefore_readValue htrail runtime.depth hread
  · rw [skipBlank_blanks_append (List.dropWhile_eq_nil_iff.mp hrest), skipBlank_eq_nil htrail]

end Texts

end VmScan.Json
