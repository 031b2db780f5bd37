import Mathlib.Data.List.TakeWhile
import VmScan.Proofs.Json.Places

/-!
# Where the reader meets its limits

A text can be refused for two limits that are no faults of the text: on the digits of an integer
and on the depth of nesting. Both are met in front of a value, so they are stated by the places at
which the reader awaits one.

* `LongInteger` — an integer literal of more than `maxDigits` digits.
* `AtLimit` — a value at one of the limits.
* `MeetsLimit`, `BeyondLimits` — a text with a place for a value at a limit.

Results:
* `LongInteger.readNumber_eq`, `longInteger_of_readNumber`: the integers that are too long.
* `meetsLimit_of_readValue`: a limit is met at a place of the text, by induction on the depth that
  is left and along the items and members of a container.
* `decode_limit_iff`: exactly the texts that meet a limit are refused for it.
-/

namespace VmScan.Json

open VmScan.Number VmScan.Text

variable {runtime : Runtime}

/-! ## Limits are met in front of values -/

/-- The reader stops at a limit, and not for a fault of the text. -/
def Stop.IsLimit : Stop → Prop
  | .malformed _ _ => False
  | .tooManyDigits _ | .tooDeep _ => True

section Inversion

variable {reader : Reader Value} {input rest text : List Char} {stop : Stop}
  {around : List Container}

theorem not_isLimit_readLowHalf (h : readLowHalf input = .error stop) : ¬ stop.IsLimit := by
  unfold readLowHalf at h
  split at h
  · split at h
    · cases h
      exact id
    · split at h <;> cases h
  · cases h

theorem not_isLimit_readUnicode (h : readUnicode runtime input = .error stop) : ¬ stop.IsLimit := by
  unfold readUnicode at h
  split at h
  · split at h
    · cases h
      exact id
    · split at h
      · split at h
        · next hlow =>
          cases h
          exact not_isLimit_readLowHalf hlow
        · cases h
        · cases h
      · cases h
  · cases h
    exact id

/-- A string meets no limit. -/
theorem not_isLimit_readString {opening : List Char}
    (h : readString runtime opening input = .error stop) :
    ¬ stop.IsLimit := by
  fun_induction readString runtime opening input with
  | case4 _ _ hread =>
    cases h
    exact not_isLimit_readUnicode hread
  | case5 | case8 | case11 =>
    rename_i hrest ih
    cases h
    exact ih hrest
  | case1 | case3 | case7 | case10 =>
    cases h
    exact id
  | case2 | case6 | case9 | case12 => cases h

end Inversion

/-! ### Long integers -/

/-- Nothing at the start of the text goes on with an integer: no digit, no fraction, no exponent. -/
structure EndsInteger (rest : List Char) : Prop where
  digit : ∀ c ∈ rest.head?, isAsciiDigit c = false
  fraction : ∀ c tail, rest = '.' :: c :: tail → isAsciiDigit c = false
  exponent : ∀ mark tail, rest = mark :: tail → mark = 'e' ∨ mark = 'E' →
    ∀ c ∈ (splitSign tail).2.head?, isAsciiDigit c = false

/-- The input starts with an integer of `count` digits, and `count` is above `maxDigits`. -/
inductive LongInteger : List Char → Nat → Prop where
  | intro (negative : Bool) {digits rest : List Char}
      (hdigits : ∀ c ∈ digits, isAsciiDigit c = true)
      (hzero : digits.head? ≠ some '0') (hlong : maxDigits < digits.length)
      (hend : EndsInteger rest) :
      LongInteger ((if negative then ['-'] else []) ++ (digits ++ rest)) digits.length

section LongIntegers

variable {input rest : List Char}

theorem takeWhile_eq_nil_iff (p : Char → Bool) (cs : List Char) :
    cs.takeWhile p = [] ↔ ∀ c ∈ cs.head?, p c = false := by
  cases cs with
  | nil => exact iff_of_true rfl nofun
  | cons c cs => by_cases h : p c = true <;> simp [h]

theorem splitFraction_fst_eq_nil_iff :
    (splitFraction rest).1 = [] ↔ ∀ c tail, rest = '.' :: c :: tail → isAsciiDigit c = false := by
  unfold splitFraction
  split
  · next tail =>
    have hdigits := takeWhile_eq_nil_iff isAsciiDigit tail
    simp only [List.isEmpty_iff]
    constructor
    · rintro h c rest heq
      obtain rfl := (List.cons.inj heq).2
      by_cases hempty : List.takeWhile isAsciiDigit (c :: rest) = []
      · exact hdigits.mp hempty c rfl
      · rw [if_neg hempty] at h
        exact absurd h hempty
    · intro h
      rw [if_pos (hdigits.mpr ?_)]
      intro c hc
      obtain ⟨rest, rfl⟩ := List.head?_eq_some_iff.mp hc
      exact h c rest rfl
  · next hpoint => exact iff_of_true rfl fun c tail heq => absurd heq (hpoint _)

theorem splitExponent_fst_eq_none_iff :
    (splitExponent rest).1 = none ↔ ∀ mark tail, rest = mark :: tail → mark = 'e' ∨ mark = 'E' →
      ∀ c ∈ (splitSign tail).2.head?, isAsciiDigit c = false := by
  unfold splitExponent
  split
  · exact iff_of_true rfl fun mark tail heq => absurd heq.symm (List.cons_ne_nil mark tail)
  · next mark tail =>
    have hdigits := takeWhile_eq_nil_iff isAsciiDigit (splitSign tail).2
    by_cases hmark : (decide (mark = 'e') || decide (mark = 'E')) = true
    · rw [if_pos hmark]
      rw [Bool.or_eq_true, decide_eq_true_eq, decide_eq_true_eq] at hmark
      simp only [List.isEmpty_iff]
      constructor
      · rintro h mark tail heq -
        obtain rfl := (List.cons.inj heq).2
        by_cases hempty : List.takeWhile isAsciiDigit (splitSign tail).2 = []
        · exact hdigits.mp hempty
        · rw [if_neg hempty] at h
          cases h
      · intro h
        rw [if_pos (hdigits.mpr (h mark tail rfl hmark))]
    · rw [if_neg hmark]
      rw [Bool.or_eq_true, decide_eq_true_eq, decide_eq_true_eq] at hmark
      refine iff_of_true rfl fun other tail heq hother => absurd hother ?_
      rwa [← (List.cons.inj heq).1]

theorem splitFraction_snd_of_fst (h : (splitFraction rest).1 = []) :
    (splitFraction rest).2 = rest := by
  unfold splitFraction at h ⊢
  split
  · next tail =>
    by_cases hempty : List.takeWhile isAsciiDigit tail = []
    · simp only [hempty, List.isEmpty_nil, if_true]
    · simp only [List.isEmpty_iff, hempty, if_false] at h
  · rfl

theorem endsInteger_iff :
    EndsInteger rest ↔ rest.takeWhile isAsciiDigit = [] ∧ (splitFraction rest).1 = [] ∧
      (splitExponent rest).1 = none := by
  rw [takeWhile_eq_nil_iff, splitFraction_fst_eq_nil_iff, splitExponent_fst_eq_none_iff]
  exact ⟨fun h => ⟨h.digit, h.fraction, h.exponent⟩, fun h => ⟨h.1, h.2.1, h.2.2⟩⟩

/-- Digits that do not start with a zero are split off, up to what is no digit. -/
theorem splitWhole_digits {digits : List Char} (hdigits : ∀ c ∈ digits, isAsciiDigit c = true)
    (hzero : digits.head? ≠ some '0') (hnil : digits ≠ [])
    (hend : rest.takeWhile isAsciiDigit = []) : splitWhole (digits ++ rest) = (digits, rest) := by
  obtain ⟨first, more, rfl⟩ := List.exists_cons_of_ne_nil hnil
  have hfirst : first ≠ '0' := fun h => hzero (by rw [h]; rfl)
  have hrest : rest.dropWhile isAsciiDigit = rest := by
    have hsplit := List.takeWhile_append_dropWhile (p := isAsciiDigit) (l := rest)
    rwa [hend, List.nil_append] at hsplit
  rw [List.cons_append, splitWhole, if_neg hfirst, ← List.cons_append,
    List.takeWhile_append_of_pos hdigits, List.dropWhile_append_of_pos hdigits, hend, hrest,
    List.append_nil]

/-- What is split off as the digits of a number, if there are several. -/
theorem splitWhole_of_one_lt {body : List Char} (h : 1 < (splitWhole body).1.length) :
    body = (splitWhole body).1 ++ (splitWhole body).2 ∧
      (∀ c ∈ (splitWhole body).1, isAsciiDigit c = true) ∧
      (splitWhole body).1.head? ≠ some '0' ∧
      (splitWhole body).2.takeWhile isAsciiDigit = [] := by
  unfold splitWhole at h ⊢
  split
  · exact absurd h (by decide)
  · next c cs =>
    by_cases hzero : c = '0'
    · simp only [hzero, if_true] at h
      exact absurd h (by decide)
    · simp only [hzero, if_false]
      refine ⟨(List.takeWhile_append_dropWhile ..).symm, fun d hd => List.mem_takeWhile_imp hd, ?_,
        ?_⟩
      · intro hhead
        by_cases hdigit : isAsciiDigit c = true
        · rw [List.takeWhile_cons_of_pos hdigit, List.head?_cons] at hhead
          exact hzero (Option.some.inj hhead)
        · rw [List.takeWhile_cons_of_neg hdigit] at hhead
          cases hhead
      · rw [takeWhile_eq_nil_iff]
        intro d hd
        have hstop := List.head?_dropWhile_not isAsciiDigit (c :: cs)
        rwa [Option.mem_def.mp hd] at hstop

theorem numberOf_error {negative : Bool} {whole fraction : List Char} {exponent : Option Int}
    {stop : Stop} (h : numberOf negative whole fraction exponent = .error stop) :
    fraction = [] ∧ exponent = none ∧ maxDigits < whole.length ∧
      stop = .tooManyDigits whole.length := by
  unfold numberOf at h
  split_ifs at h with hwhole hlong
  cases h
  rw [Bool.and_eq_true, List.isEmpty_iff, Option.isNone_iff_eq_none] at hwhole
  exact ⟨hwhole.1, hwhole.2, hlong, rfl⟩

/-- The sign of a number is split off. -/
theorem exists_sign (input : List Char) : ∃ (negative : Bool) (body : List Char),
    decide (input.head? = some '-') = negative ∧
      (if input.head? = some '-' then input.drop 1 else input) = body ∧
      input = (if negative then ['-'] else []) ++ body := by
  refine ⟨_, _, rfl, rfl, ?_⟩
  cases input with
  | nil => rfl
  | cons c cs =>
    by_cases hsign : c = '-'
    · subst hsign
      rfl
    · simp [hsign]

/-- What stops a number: that there is none, or its length. -/
theorem readNumber_error {stop : Stop} (h : readNumber input = .error stop) :
    stop = .malformed .expectingValue input ∨ ∃ (negative : Bool) (body : List Char),
      input = (if negative then ['-'] else []) ++ body ∧
        numberOf negative (splitWhole body).1 (splitFraction (splitWhole body).2).1
          (splitExponent (splitFraction (splitWhole body).2).2).1 = .error stop := by
  obtain ⟨negative, body, hnegative, hbody, hinput⟩ := exists_sign input
  unfold readNumber at h
  simp only [hnegative, hbody] at h
  split at h
  · cases h
    exact Or.inl rfl
  · split at h
    · next hnumber =>
      cases h
      exact Or.inr ⟨negative, body, hinput, hnumber⟩
    · cases h

theorem longInteger_of_readNumber {stop : Stop} (h : readNumber input = .error stop)
    (hlimit : stop.IsLimit) : ∃ count, stop = .tooManyDigits count ∧ LongInteger input count := by
  rcases readNumber_error h with rfl | ⟨negative, body, rfl, hnumber⟩
  · exact absurd hlimit id
  obtain ⟨hfraction, hexponent, hlong, rfl⟩ := numberOf_error hnumber
  have hmax : 1 < maxDigits := by decide
  obtain ⟨hbody, hdigits, hzero, hend⟩ := splitWhole_of_one_lt (Nat.lt_trans hmax hlong)
  rw [splitFraction_snd_of_fst hfraction] at hexponent
  refine ⟨_, rfl, ?_⟩
  conv => arg 1; rw [hbody]
  exact .intro negative hdigits hzero hlong (endsInteger_iff.mpr ⟨hend, hfraction, hexponent⟩)

/-- The sign in front of a text that starts with none is split off. -/
theorem sign_append (negative : Bool) {body : List Char} (h : body.head? ≠ some '-') :
    decide (((if negative then ['-'] else []) ++ body).head? = some '-') = negative ∧
      (if ((if negative then ['-'] else []) ++ body).head? = some '-' then
        ((if negative then ['-'] else []) ++ body).drop 1
        else (if negative then ['-'] else []) ++ body) = body := by
  cases negative with
  | true => exact ⟨rfl, rfl⟩
  | false => exact ⟨decide_eq_false h, if_neg h⟩

theorem LongInteger.readNumber_eq {count : Nat} (h : LongInteger input count) :
    readNumber input = .error (.tooManyDigits count) := by
  obtain ⟨negative, hdigits, hzero, hlong, hend⟩ := h
  rename_i digits rest
  obtain ⟨hwhole, hfraction, hexponent⟩ := endsInteger_iff.mp hend
  obtain ⟨first, more, rfl⟩ := List.exists_cons_of_length_pos (Nat.zero_lt_of_lt hlong)
  have hminus : (first :: more ++ rest).head? ≠ some '-' := by
    rw [List.cons_append, List.head?_cons, ne_eq, Option.some.injEq]
    rintro rfl
    exact absurd (hdigits '-' List.mem_cons_self) (by decide)
  have hnumber : numberOf negative (first :: more) [] none
      = .error (.tooManyDigits (first :: more).length) := by
    have hinteger : (([] : List Char).isEmpty && (none : Option Int).isNone) = true := rfl
    rw [numberOf, if_pos hinteger, if_pos hlong]
  obtain ⟨hnegative, hbody⟩ := sign_append negative hminus
  unfold readNumber
  simp only [hnegative, hbody, splitWhole_digits hdigits hzero (List.cons_ne_nil _ _) hwhole,
    hfraction, splitFraction_snd_of_fst hfraction, hexponent, hnumber, List.cons_ne_nil, dite_false]

theorem LongInteger.startsNumber {count : Nat} (h : LongInteger input count) :
    StartsNumber input := by
  obtain ⟨negative, hdigits, -, hlong, -⟩ := h
  rename_i digits rest
  obtain ⟨first, more, rfl⟩ := List.exists_cons_of_length_pos (Nat.zero_lt_of_lt hlong)
  refine ⟨first, more ++ rest, hdigits first List.mem_cons_self, ?_⟩
  cases negative with
  | true => exact Or.inr rfl
  | false => exact Or.inl rfl

end LongIntegers

/-! ## Values at a limit -/

/-- The value awaited in front of the input inside the containers is at a limit. -/
inductive AtLimit (runtime : Runtime) (around : List Container) : List Char → Stop → Prop where
  | digits {input : List Char} {count : Nat} (hdepth : around.length ≤ runtime.depth)
      (h : LongInteger input count) : AtLimit runtime around input (.tooManyDigits count)
  | depth {container : Container} {rest : List Char} (h : around.length = runtime.depth) :
      AtLimit runtime around (container.opening :: rest) (.tooDeep container)

/-- A place of the text at which a value is at a limit. -/
def MeetsLimit (runtime : Runtime) (text : List Char) (stop : Stop) : Prop :=
  ∃ around input, Awaits runtime text around input ∧ AtLimit runtime around input stop

/-- The text goes beyond what the reader takes: an integer is too long, or the nesting too deep. -/
def BeyondLimits (runtime : Runtime) (text : List Char) : Prop :=
  ∃ stop, MeetsLimit runtime text stop

section Limits

variable {text input rest : List Char} {stop : Stop} {around : List Container}
  {reader : Reader Value}

theorem eq_error_of_map {ε α β : Type} {result : Except ε α} {f : α → β} {failure : ε}
    (h : result.map f = .error failure) : result = .error failure := by
  cases result with
  | error _ => cases h; rfl
  | ok _ => cases h

/-- How reading one value meets a limit. -/
theorem readValueWith_limit {inner : Option (Reader Value)}
    (h : readValueWith runtime inner input = .error stop) (hlimit : stop.IsLimit) :
    (∃ count, stop = .tooManyDigits count ∧ LongInteger input count) ∨
      (∃ container rest, inner = none ∧ input = Container.opening container :: rest ∧
        stop = .tooDeep container) ∨
      (∃ reader rest, inner = some reader ∧ input = '[' :: rest ∧
        readArray reader rest = .error stop) ∨
      ∃ reader rest, inner = some reader ∧ input = '\x7b' :: rest ∧
        readObject runtime reader rest = .error stop := by
  unfold readValueWith at h
  split at h
  case h_7 => exact absurd hlimit (not_isLimit_readString (eq_error_of_map h))
  case h_8 rest =>
    cases inner with
    | none =>
      cases h
      exact Or.inr (Or.inl ⟨.array, rest, rfl, rfl, rfl⟩)
    | some reader =>
      exact Or.inr (Or.inr (Or.inl ⟨reader, rest, rfl, rfl, eq_error_of_map h⟩))
  case h_9 rest =>
    cases inner with
    | none =>
      cases h
      exact Or.inr (Or.inl ⟨.object, rest, rfl, rfl, rfl⟩)
    | some reader =>
      exact Or.inr (Or.inr (Or.inr ⟨reader, rest, rfl, rfl, eq_error_of_map h⟩))
  case h_10 => exact Or.inl (longInteger_of_readNumber h hlimit)
  all_goals cases h

/-- How reading items meets a limit: in the first, or in the items behind it. -/
theorem readItems_limit (h : readItems reader input = .error stop) (hlimit : stop.IsLimit) :
    reader input = .error stop ∨ ∃ value rest tail, Reads reader input value rest ∧
      skipBlank rest = ',' :: tail ∧ readItems reader (skipBlank tail) = .error stop ∧
      (skipBlank tail).length < input.length := by
  rw [readItems] at h
  split at h
  · next hfirst =>
    cases h
    exact Or.inl hfirst
  · next value rest shorter hfirst =>
    simp only at h
    split at h
    · cases h
    · next tail hcomma =>
      have hblank := length_skipBlank_le rest
      have htail := length_skipBlank_le tail
      rw [hcomma, List.length_cons] at hblank
      split at h
      · next hmore =>
        cases h
        exact Or.inr ⟨value, rest, tail, ⟨_, hfirst, rfl, rfl⟩, hcomma, hmore, by omega⟩
      · cases h
    · cases h
      exact absurd hlimit id

/-- A member has a name in front of a colon, or it is refused for a fault of the text. -/
theorem exists_named_or_refused (reader : Reader Value) (input : List Char) :
    (∃ behind, Named runtime input behind) ∨
      ∃ stop, readMember runtime reader input = .error stop ∧ ¬ stop.IsLimit := by
  unfold readMember
  split
  · next rest =>
    cases hname : readString runtime ('"' :: rest) rest with
    | error stop => exact Or.inr ⟨stop, rfl, not_isLimit_readString hname⟩
    | ok name =>
      simp only
      split
      · next tail hcolon =>
        exact Or.inl ⟨_, rest, name.value, name.rest, tail, rfl, ⟨_, hname, rfl, rfl⟩, hcolon, rfl⟩
      · exact Or.inr ⟨_, rfl, id⟩
  · exact Or.inr ⟨_, rfl, id⟩

theorem readMember_limit (h : readMember runtime reader input = .error stop)
    (hlimit : stop.IsLimit) :
    ∃ behind, Named runtime input behind ∧ reader behind = .error stop := by
  rcases exists_named_or_refused reader input with ⟨behind, hname⟩ | ⟨other, hother, hno⟩
  · refine ⟨behind, hname, ?_⟩
    cases hvalue : reader behind with
    | error other =>
      cases h.symm.trans (readMember_error_of_value hname hvalue)
      rfl
    | ok held =>
      obtain ⟨name, parsed, hmember, -⟩ := hname.reads_member ⟨held, hvalue, rfl, rfl⟩
      cases h.symm.trans hmember
  · cases h.symm.trans hother
    exact absurd hlimit hno

/-- A member that is read has a name, and its value is read behind the name. -/
theorem exists_named_of_reads {member : String × Value}
    (h : Reads (readMember runtime reader) input member rest) :
    ∃ behind, Named runtime input behind ∧ Reads reader behind member.2 rest := by
  obtain ⟨parsed, h, rfl, rfl⟩ := h
  rcases exists_named_or_refused reader input with ⟨behind, hname⟩ | ⟨stop, hstop, -⟩
  · refine ⟨behind, hname, ?_⟩
    cases hvalue : reader behind with
    | error stop => cases h.symm.trans (readMember_error_of_value hname hvalue)
    | ok held =>
      obtain ⟨name, other, hother, hmember, hrest⟩ := hname.reads_member ⟨held, hvalue, rfl, rfl⟩
      cases h.symm.trans hother
      exact ⟨held, hvalue, (congrArg Prod.snd hmember).symm, hrest.symm⟩
  · cases h.symm.trans hstop

/-- How reading members meets a limit: in the first, or in the members behind it. -/
theorem readMembers_limit (h : readMembers runtime reader input = .error stop)
    (hlimit : stop.IsLimit) :
    readMember runtime reader input = .error stop ∨ ∃ member rest tail,
      Reads (readMember runtime reader) input member rest ∧ skipBlank rest = ',' :: tail ∧
        readMembers runtime reader (skipBlank tail) = .error stop ∧
        (skipBlank tail).length < input.length := by
  rw [readMembers] at h
  split at h
  · next hfirst =>
    cases h
    exact Or.inl hfirst
  · next member rest shorter hfirst =>
    simp only at h
    split at h
    · cases h
    · next tail hcomma =>
      have hblank := length_skipBlank_le rest
      have htail := length_skipBlank_le tail
      rw [hcomma, List.length_cons] at hblank
      split at h
      · next hmore =>
        cases h
        exact Or.inr ⟨member, rest, tail, ⟨_, hfirst, rfl, rfl⟩, hcomma, hmore, by omega⟩
      · cases h
    · cases h
      exact absurd hlimit id

theorem readArray_limit (h : readArray reader rest = .error stop) :
    (∀ tail, skipBlank rest ≠ ']' :: tail) ∧ readItems reader (skipBlank rest) = .error stop := by
  unfold readArray at h
  simp only at h
  split at h
  · cases h
  · next hopen =>
    split at h
    · next hitems =>
      cases h
      exact ⟨hopen, hitems⟩
    · cases h

theorem readObject_limit (h : readObject runtime reader rest = .error stop) :
    readMembers runtime reader (skipBlank rest) = .error stop := by
  unfold readObject at h
  simp only at h
  split at h
  · cases h
  · split at h
    · next hmembers =>
      cases h
      exact hmembers
    · cases h

/-- In a container whose values meet their limits at places of the text, its items do too. -/
theorem meetsLimit_of_readItems
    (hvalue : ∀ input, Awaits runtime text (.array :: around) input →
      readValue runtime (depthIn runtime (.array :: around)) input = .error stop →
        MeetsLimit runtime text stop)
    (hlimit : stop.IsLimit) (hawaits : Awaits runtime text (.array :: around) input)
    (h : readItems (readValue runtime (depthIn runtime (.array :: around))) input = .error stop) :
    MeetsLimit runtime text stop := by
  induction hn : input.length using Nat.strong_induction_on generalizing input with
  | h n ih =>
    rcases readItems_limit h hlimit with hfirst | ⟨value, rest, tail, hread, hcomma, hmore, hshort⟩
    · exact hvalue input hawaits hfirst
    · exact ih _ (hn ▸ hshort) (hawaits.nextItem hread hcomma) hmore rfl

/-- The same for the members of an object, from a member on whose value is awaited. -/
theorem meetsLimit_of_readMembers
    (hvalue : ∀ input, Awaits runtime text (.object :: around) input →
      readValue runtime (depthIn runtime (.object :: around)) input = .error stop →
        MeetsLimit runtime text stop)
    (hlimit : stop.IsLimit)
    (hawaits : ∀ behind,
      Named runtime input behind → Awaits runtime text (.object :: around) behind)
    (h : readMembers runtime (readValue runtime (depthIn runtime (.object :: around))) input
      = .error stop) :
    MeetsLimit runtime text stop := by
  induction hn : input.length using Nat.strong_induction_on generalizing input with
  | h n ih =>
    rcases readMembers_limit h hlimit with
      hfirst | ⟨member, rest, tail, hmember, hcomma, hmore, hshort⟩
    · obtain ⟨behind, hname, hfailed⟩ := readMember_limit hfirst hlimit
      exact hvalue behind (hawaits behind hname) hfailed
    · obtain ⟨behind, hname, hread⟩ := exists_named_of_reads hmember
      exact ih _ (hn ▸ hshort)
        (fun next hnext => (hawaits behind hname).nextMember hread hcomma hnext) hmore rfl

/-- **A limit is met at a place of the text**: by induction on the depth that is left, and in a
container along its items or members. -/
theorem meetsLimit_of_readValue {depth : Nat} (hawaits : Awaits runtime text around input)
    (hdepth : around.length + depth = runtime.depth)
    (h : readValue runtime depth input = .error stop)
    (hlimit : stop.IsLimit) : MeetsLimit runtime text stop := by
  induction depth generalizing around input with
  | zero =>
    rcases readValueWith_limit h hlimit with ⟨count, rfl, hlong⟩ | ⟨container, rest, -, rfl, rfl⟩ |
      ⟨reader, rest, hinner, -⟩ | ⟨reader, rest, hinner, -⟩
    · exact ⟨around, input, hawaits, .digits (by omega) hlong⟩
    · exact ⟨around, _, hawaits, .depth (by omega)⟩
    · cases hinner
    · cases hinner
  | succ depth ih =>
    have hinside : ∀ container, depthIn runtime (container :: around) = depth := by
      intro container
      rw [depthIn, List.length_cons]
      omega
    rcases readValueWith_limit h hlimit with ⟨count, rfl, hlong⟩ | ⟨container, rest, hinner, -⟩ |
      ⟨reader, rest, hinner, rfl, harray⟩ | ⟨reader, rest, hinner, rfl, hobject⟩
    · exact ⟨around, input, hawaits, .digits (by omega) hlong⟩
    · cases hinner
    · cases hinner
      obtain ⟨hopen, hitems⟩ := readArray_limit harray
      have hvalue : ∀ item, Awaits runtime text (.array :: around) item →
          readValue runtime (depthIn runtime (.array :: around)) item = .error stop →
            MeetsLimit runtime text stop := by
        intro item hitem hfailed
        rw [hinside] at hfailed
        exact ih hitem (by rw [List.length_cons]; omega) hfailed
      refine meetsLimit_of_readItems hvalue hlimit (hawaits.firstItem hopen) ?_
      rwa [hinside]
    · cases hinner
      have hvalue : ∀ behind, Awaits runtime text (.object :: around) behind →
          readValue runtime (depthIn runtime (.object :: around)) behind = .error stop →
            MeetsLimit runtime text stop := by
        intro behind hbehind hfailed
        rw [hinside] at hfailed
        exact ih hbehind (by rw [List.length_cons]; omega) hfailed
      refine meetsLimit_of_readMembers hvalue hlimit
        (fun behind hname => hawaits.firstMember hname) ?_
      rw [hinside]
      exact readObject_limit hobject

theorem LongInteger.readValue_eq {count : Nat} (h : LongInteger input count) (depth : Nat) :
    readValue runtime depth input = .error (.tooManyDigits count) := by
  obtain ⟨inner, hinner⟩ := exists_readValue_eq runtime depth
  rw [hinner, readValueWith_number h.startsNumber, h.readNumber_eq]

/-- A value at a limit is refused for it. -/
theorem AtLimit.readValue_eq (h : AtLimit runtime around input stop) :
    readValue runtime (depthIn runtime around) input = .error stop := by
  cases h with
  | digits hdepth hlong => exact hlong.readValue_eq _
  | @depth container rest hdepth =>
    have hnone : depthIn runtime around = 0 := by rw [depthIn]; omega
    rw [hnone]
    cases container <;> rfl

theorem AtLimit.length_le (h : AtLimit runtime around input stop) :
    around.length ≤ runtime.depth := by
  cases h with
  | digits hdepth _ => exact hdepth
  | depth hdepth => exact Nat.le_of_eq hdepth

theorem AtLimit.isLimit (h : AtLimit runtime around input stop) : stop.IsLimit := by
  cases h <;> exact trivial

/-- **Exactly the texts that meet a limit are refused for it.** -/
theorem decode_limit_iff :
    decode runtime text = .error stop ∧ stop.IsLimit ↔ MeetsLimit runtime text stop := by
  constructor
  · rintro ⟨h, hlimit⟩
    rw [decode] at h
    split at h
    · cases h
      exact absurd hlimit id
    · next hmark =>
      split at h
      · next hfailed =>
        cases h
        exact meetsLimit_of_readValue (.start hmark) (Nat.zero_add _) hfailed hlimit
      · split at h
        · cases h
        · cases h
          exact absurd hlimit id
  · rintro ⟨around, input, hawaits, hlimit⟩
    exact ⟨decode_error_of_awaits hawaits hlimit.length_le hlimit.readValue_eq, hlimit.isLimit⟩

/-- A text that goes beyond the limits is refused, and for a limit. -/
theorem BeyondLimits.decode_error (h : BeyondLimits runtime text) :
    ∃ stop, decode runtime text = .error stop ∧ stop.IsLimit :=
  h.imp fun _ hmeets => decode_limit_iff.mpr hmeets

/-- A text meets at most one limit. -/
theorem MeetsLimit.eq_iff {other : Stop} (h : MeetsLimit runtime text stop) :
    stop = other ↔ MeetsLimit runtime text other := by
  constructor
  · rintro rfl
    exact h
  · intro hother
    have hstop := (decode_limit_iff.mpr h).1
    rw [(decode_limit_iff.mpr hother).1] at hstop
    cases hstop
    rfl

end Limits

end VmScan.Json
