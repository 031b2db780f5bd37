import VmScan.Proofs.Script.Closing

/-!
# The escape sequences of a body

The body of a literal is a row of escape sequences and of single characters that stand for
themselves. A cut of the body falls between two of these, or parts one.

* `escapeRest` — how much belongs to an escape behind its first character: the digits of an escape
  by number, with the braces around them, further octal digits, or the line feed behind a carriage
  return.
* `sequences` — the sequences of a body.
* `Parts` — a cut of a body, with what is kept of the sequence that it parts.
* `AtBoundary` — a cut between two sequences.

Results:
* `flatten_sequences`: the sequences, joined, are the body.
* `escapeRest_append`: what belongs to an escape does not depend on what stands behind it.
* `exists_parts`: every cut of a body parts one sequence, or none.
* `Parts.atBoundary_iff`: it falls between two sequences exactly if nothing is kept of the next one.
* `Parts.ne_backslash`: no cut behind an even run of backslashes keeps a backslash alone.
-/

namespace VmScan.Script

open VmScan.Text

/-! ## Sequences -/

/-- The number of octal digits that belong to an octal escape behind its first. -/
def octalRest (first : Char) (cs : List Char) : Nat :=
  ((cs.take (if first ≤ '3' then 2 else 1)).takeWhile isOctalDigit).length

/-- The number of characters that belong to an escape sequence behind its first. An escape by number
with wrong digits is the one character alone. -/
def escapeRest (first : Char) (cs : List Char) : Nat :=
  if first = 'u' then (unicodeEscape? cs).getD 0
  else if first = 'x' then (if (hexFixed? 2 cs).isSome then 2 else 0)
  else if isOctalDigit first then octalRest first cs
  else lineEndRest first cs

/-- The escape sequences of a body, and the characters between them one by one. -/
def sequences : List Char → List (List Char)
  | [] => []
  | '\\' :: first :: cs =>
    ('\\' :: first :: cs.take (escapeRest first cs)) :: sequences (cs.drop (escapeRest first cs))
  | c :: cs => [c] :: sequences cs
termination_by body => body.length
decreasing_by all_goals simp only [List.length_cons, List.length_drop]; omega

/-- The sequences, joined, are the body. -/
theorem flatten_sequences (body : List Char) : (sequences body).flatten = body := by
  fun_induction sequences body with
  | case1 => rfl
  | case2 first cs ih =>
    rw [List.flatten_cons, ih, List.cons_append, List.cons_append, List.take_append_drop]
  | case3 c cs _ ih => rw [List.flatten_cons, ih, List.singleton_append]

/-- What follows in the row of sequences is the row of what follows in the body. -/
theorem sequences_behind {body : List Char} {front back : List (List Char)}
    (h : sequences body = front ++ back) : sequences back.flatten = back := by
  fun_induction sequences body generalizing front with
  | case1 =>
    obtain ⟨-, rfl⟩ := List.append_eq_nil_iff.mp h.symm
    rw [List.flatten_nil, sequences]
  | case2 first cs ih =>
    rcases List.cons_eq_append_iff.mp h with ⟨-, rfl⟩ | ⟨front, -, hfront⟩
    · rw [← sequences, flatten_sequences]
    · exact ih hfront
  | case3 c cs hplain ih =>
    rcases List.cons_eq_append_iff.mp h with ⟨-, rfl⟩ | ⟨front, -, hfront⟩
    · rw [← sequences.eq_3 c cs hplain, flatten_sequences]
    · exact ih hfront

/-! ## What belongs to an escape -/

section Escapes

variable {cs more : List Char}

theorem isAsciiDigit_of_isOctalDigit {c : Char} (h : isOctalDigit c = true) :
    isAsciiDigit c = true := by
  rw [isOctalDigit, Bool.and_eq_true, decide_eq_true_eq, decide_eq_true_eq] at h
  rw [isAsciiDigit, Bool.and_eq_true, decide_eq_true_eq, decide_eq_true_eq]
  exact ⟨h.1, Char.le_trans h.2 (by decide)⟩

theorem isHexDigit_of_isOctalDigit {c : Char} (h : isOctalDigit c = true) : isHexDigit c = true :=
  isHexDigit_of_isAsciiDigit (isAsciiDigit_of_isOctalDigit h)

/-- What cannot belong to an escape behind its first character. -/
theorem not_escapePart_iff {c : Char} : isEscapePart c = false ↔
    isHexDigit c = false ∧ c ≠ '\x7b' ∧ c ≠ '\x7d' ∧ c ≠ '\n' := by
  simp only [isEscapePart, Bool.or_eq_false_iff, decide_eq_false_iff_not, ne_eq, and_assoc]

theorem octalRest_le (first : Char) (cs : List Char) : octalRest first cs ≤ cs.length :=
  ((List.takeWhile_prefix _).length_le).trans ((List.length_take_le' _ _))

theorem take_octalRest (first : Char) (cs : List Char) :
    cs.take (octalRest first cs)
      = (cs.take (if first ≤ '3' then 2 else 1)).takeWhile isOctalDigit := by
  have hprefix : (cs.take (if first ≤ '3' then 2 else 1)).takeWhile isOctalDigit <+: cs :=
    (List.takeWhile_prefix _).trans (List.take_prefix _ _)
  exact (List.prefix_iff_eq_take.mp hprefix).symm

theorem le_of_hexFixed? {count : Nat} (h : (hexFixed? count cs).isSome) : count ≤ cs.length := by
  obtain ⟨value, hvalue⟩ := Option.isSome_iff_exists.mp h
  simp only [hexFixed?, Bool.and_eq_true, Option.ite_none_right_eq_some, decide_eq_true_eq,
    List.length_take] at hvalue
  omega

theorem le_of_codePoint? {code length : Nat} (h : codePoint? cs = some (code, length)) :
    length ≤ cs.length := by
  obtain ⟨digits, rest, rfl, -, -, -, -, rfl⟩ := codePoint?_eq_some_iff.mp h
  rw [List.length_append, List.length_cons]
  omega

theorem le_of_unicodeEscape? {length : Nat} (h : unicodeEscape? cs = some length) :
    length ≤ cs.length := by
  unfold unicodeEscape? at h
  split at h
  · obtain ⟨⟨code, count⟩, hcode, rfl⟩ := Option.map_eq_some_iff.mp h
    exact Nat.succ_le_succ (le_of_codePoint? hcode)
  · obtain ⟨value, hvalue, rfl⟩ := Option.map_eq_some_iff.mp h
    exact le_of_hexFixed? (by rw [hvalue]; rfl)

/-- What belongs to an escape behind its first character can stand there. -/
theorem escapeRest_parts (first : Char) (cs : List Char) :
    ∀ c ∈ cs.take (escapeRest first cs), isEscapePart c = true := by
  unfold escapeRest
  split_ifs with hu hx hhex hoctal
  · cases hunicode : unicodeEscape? cs with
    | none => exact List.forall_mem_nil _
    | some length => exact unicodeEscape?_parts hunicode
  · obtain ⟨value, hvalue⟩ := Option.isSome_iff_exists.mp hhex
    exact hexFixed?_parts hvalue
  · exact List.forall_mem_nil _
  · intro c hc
    rw [take_octalRest] at hc
    have hdigit : isHexDigit c = true := isHexDigit_of_isOctalDigit (List.mem_takeWhile_imp hc)
    simp only [isEscapePart, hdigit, Bool.true_or]
  · exact lineEndRest_parts first

theorem lineEndRest_le (first : Char) (cs : List Char) : lineEndRest first cs ≤ cs.length := by
  rw [lineEndRest]
  split_ifs with h
  · rw [Bool.and_eq_true, decide_eq_true_eq, decide_eq_true_eq] at h
    obtain ⟨rest, rfl⟩ := List.head?_eq_some_iff.mp h.2
    exact Nat.succ_le_succ (Nat.zero_le _)
  · exact Nat.zero_le _

/-- The escape is part of the text. -/
theorem escapeRest_le (first : Char) (cs : List Char) : escapeRest first cs ≤ cs.length := by
  unfold escapeRest
  split_ifs with hu hx hhex hoctal
  · cases hunicode : unicodeEscape? cs with
    | none => exact Nat.zero_le _
    | some length => exact le_of_unicodeEscape? hunicode
  · exact le_of_hexFixed? hhex
  · exact Nat.zero_le _
  · exact octalRest_le first cs
  · exact lineEndRest_le first cs

/-- What stands behind the digits of an escape by number does not matter. -/
theorem hexFixed?_take_append {count length : Nat} (h : (hexFixed? count cs).isSome)
    (hle : count ≤ length) (other : List Char) :
    hexFixed? count (cs.take length ++ other) = hexFixed? count cs := by
  have hcount := le_of_hexFixed? h
  have htake : (cs.take length ++ other).take count = cs.take count := by
    rw [List.take_append_of_le_length, List.take_take, Nat.min_eq_left hle]
    rw [List.length_take]
    exact Nat.le_min.mpr ⟨hle, hcount⟩
  simp only [hexFixed?, htake]

theorem codePoint?_take_append {code length : Nat} (h : codePoint? cs = some (code, length))
    (other : List Char) : codePoint? (cs.take length ++ other) = some (code, length) := by
  obtain ⟨digits, rest, rfl, hall, hdigits, hcode, rfl, rfl⟩ := codePoint?_eq_some_iff.mp h
  refine codePoint?_eq_some_iff.mpr ⟨digits, other, ?_, hall, hdigits, hcode, rfl, rfl⟩
  rw [List.take_length_add_append, List.take_succ_cons, List.take_zero, List.append_assoc,
    List.singleton_append]

theorem unicodeEscape?_take_append {length : Nat} (h : unicodeEscape? cs = some length)
    (other : List Char) : unicodeEscape? (cs.take length ++ other) = some length := by
  fun_cases unicodeEscape? cs with
  | case1 cs =>
    obtain ⟨⟨code, count⟩, hcode, rfl⟩ := Option.map_eq_some_iff.mp h
    rw [List.take_succ_cons, List.cons_append, unicodeEscape?, codePoint?_take_append hcode]
    rfl
  | case2 cs hbrace =>
    rw [unicodeEscape?.eq_2 cs hbrace] at h
    obtain ⟨value, hvalue, rfl⟩ := Option.map_eq_some_iff.mp h
    have hsome : (hexFixed? 4 cs).isSome := by rw [hvalue]; rfl
    obtain ⟨c, cs, rfl⟩ := List.exists_cons_of_length_pos
      (Nat.lt_of_lt_of_le (by decide) (le_of_hexFixed? hsome))
    rw [List.take_succ_cons, List.cons_append, unicodeEscape?.eq_2, ← List.cons_append,
      ← List.take_succ_cons, hexFixed?_take_append hsome (Nat.le_refl 4), hvalue]
    · rfl
    · exact fun rest heq => hbrace cs (congrArg (· :: cs) (List.cons.inj heq).1)

theorem takeWhile_append_of_head {p : Char → Bool} (h : ∀ c ∈ more.head?, p c = false)
    (cs : List Char) : (cs ++ more).takeWhile p = cs.takeWhile p := by
  induction cs with
  | nil =>
    cases more with
    | nil => rfl
    | cons c more => exact List.takeWhile_cons_of_neg (by simp [h c rfl])
  | cons c cs ih => rw [List.cons_append, List.takeWhile_cons, List.takeWhile_cons, ih]

theorem hexFixed?_append (h : ∀ c ∈ more.head?, isHexDigit c = false) (count : Nat)
    (cs : List Char) : hexFixed? count (cs ++ more) = hexFixed? count cs := by
  rcases Nat.lt_or_ge cs.length count with hshort | hwhole
  · have hnone : hexFixed? count cs = none := by
      rw [hexFixed?, if_neg]
      simp only [List.length_take, Bool.and_eq_true, decide_eq_true_eq]
      omega
    rw [hnone, hexFixed?, if_neg]
    -- a text that is long enough goes on with the first character of what stands behind
    rintro hdigits
    rw [Bool.and_eq_true, List.all_eq_true, List.take_append,
      List.take_of_length_le (Nat.le_of_lt hshort)] at hdigits
    obtain ⟨extra, hextra⟩ : ∃ extra, count - cs.length = extra + 1 :=
      Nat.exists_eq_add_one.mpr (by omega)
    rw [hextra] at hdigits
    cases more with
    | nil =>
      rw [List.take_nil, List.append_nil, decide_eq_true_eq] at hdigits
      omega
    | cons c more =>
      have hc := hdigits.2 c (List.mem_append_right _ List.mem_cons_self)
      rw [h c rfl] at hc
      cases hc
  · simp only [hexFixed?, List.take_append_of_le_length hwhole]

theorem codePoint?_append (h : ∀ c ∈ more.head?, isEscapePart c = false) (cs : List Char) :
    codePoint? (cs ++ more) = codePoint? cs := by
  have hdigits : (cs ++ more).takeWhile isHexDigit = cs.takeWhile isHexDigit :=
    takeWhile_append_of_head (fun c hc => (not_escapePart_iff.mp (h c hc)).1) cs
  have hclose : ((cs ++ more).drop (cs.takeWhile isHexDigit).length).head? = some '\x7d'
      ↔ (cs.drop (cs.takeWhile isHexDigit).length).head? = some '\x7d' := by
    rcases Nat.lt_or_ge (cs.takeWhile isHexDigit).length cs.length with hinside | hend
    · rw [List.drop_append_of_le_length (Nat.le_of_lt hinside), List.head?_append_of_ne_nil]
      exact fun hnil => Nat.not_le.mpr hinside (List.drop_eq_nil_iff.mp hnil)
    · rw [List.drop_append, List.drop_eq_nil_iff.mpr hend, List.nil_append]
      refine iff_of_false (fun hhead => ?_) nofun
      have hlength : (cs.takeWhile isHexDigit).length - cs.length = 0 :=
        Nat.sub_eq_zero_of_le (List.takeWhile_prefix _).length_le
      rw [hlength, List.drop_zero] at hhead
      exact (not_escapePart_iff.mp (h _ hhead)).2.2.1 rfl
  simp only [codePoint?, hdigits, ne_eq, hclose]

theorem unicodeEscape?_append (h : ∀ c ∈ more.head?, isEscapePart c = false) (cs : List Char) :
    unicodeEscape? (cs ++ more) = unicodeEscape? cs := by
  have hhex := hexFixed?_append (fun c hc => (not_escapePart_iff.mp (h c hc)).1) 4 cs
  cases cs with
  | nil =>
    have hbrace : ∀ rest, more ≠ '\x7b' :: rest := fun rest heq =>
      (not_escapePart_iff.mp (h '\x7b' (heq ▸ rfl))).2.1 rfl
    rw [List.nil_append] at hhex ⊢
    rw [unicodeEscape?.eq_2 more hbrace, hhex]
    rfl
  | cons c cs =>
    by_cases hc : c = '\x7b'
    · rw [hc, List.cons_append, unicodeEscape?, unicodeEscape?, codePoint?_append h]
    · have hbrace : ∀ tail rest, c :: tail ≠ '\x7b' :: rest := fun _ _ heq =>
        hc (List.cons.inj heq).1
      rw [List.cons_append] at hhex ⊢
      rw [unicodeEscape?.eq_2 _ (hbrace _), unicodeEscape?.eq_2 _ (hbrace _), hhex]

theorem octalRest_append (h : ∀ c ∈ more.head?, isEscapePart c = false) (first : Char)
    (cs : List Char) : octalRest first (cs ++ more) = octalRest first cs := by
  have hoctal : ∀ c ∈ more.head?, isOctalDigit c = false := fun c hc =>
    Bool.eq_false_iff.mpr fun hdigit =>
      Bool.false_ne_true ((not_escapePart_iff.mp (h c hc)).1.symm.trans
        (isHexDigit_of_isOctalDigit hdigit))
  unfold octalRest
  generalize (if first ≤ '3' then 2 else 1) = bound
  rw [List.take_append, takeWhile_append_of_head]
  intro c hc
  refine hoctal c ?_
  cases hbound : bound - cs.length with
  | zero => rw [hbound] at hc; cases hc
  | succ n => rwa [hbound, List.head?_take, if_neg (Nat.succ_ne_zero n)] at hc

theorem lineEndRest_append (h : ∀ c ∈ more.head?, isEscapePart c = false) (first : Char)
    (cs : List Char) : lineEndRest first (cs ++ more) = lineEndRest first cs := by
  cases cs with
  | nil =>
    have hfeed : more.head? ≠ some '\n' := fun hhead =>
      (not_escapePart_iff.mp (h _ hhead)).2.2.2 rfl
    simp [lineEndRest, hfeed]
  | cons c cs => rfl

/-- **What belongs to an escape does not depend on what stands behind it**, unless that could belong
to an escape as well. -/
theorem escapeRest_append (h : ∀ c ∈ more.head?, isEscapePart c = false) (first : Char)
    (cs : List Char) : escapeRest first (cs ++ more) = escapeRest first cs := by
  have hhex : ∀ c ∈ more.head?, isHexDigit c = false := fun c hc =>
    (not_escapePart_iff.mp (h c hc)).1
  simp only [escapeRest, unicodeEscape?_append h, hexFixed?_append hhex, octalRest_append h,
    lineEndRest_append h]

end Escapes

/-! ## Cuts -/

/-- The cut of the body behind `kept` keeps `part` of the sequence that it falls into. -/
def Parts (body kept part : List Char) : Prop :=
  ∃ front rest back, sequences body = front ++ (part ++ rest) :: back ∧
    kept = front.flatten ++ part ∧ rest ≠ []

/-- The cut of the body behind `kept` falls between two sequences, or at an end. -/
def AtBoundary (body kept : List Char) : Prop :=
  ∃ front back, sequences body = front ++ back ∧ kept = front.flatten

/-- A cut of a row falls into one of its parts. -/
theorem exists_take_flatten {α : Type} {parts : List (List α)} {n : Nat}
    (h : n < parts.flatten.length) :
    ∃ front part rest back, parts = front ++ (part ++ rest) :: back ∧
      parts.flatten.take n = front.flatten ++ part ∧ rest ≠ [] := by
  induction parts generalizing n with
  | nil => cases h
  | cons s parts ih =>
    rw [List.flatten_cons, List.length_append] at h
    rcases Nat.lt_or_ge n s.length with hinside | hbehind
    · refine ⟨[], s.take n, s.drop n, parts, ?_, ?_, ?_⟩
      · rw [List.take_append_drop, List.nil_append]
      · rw [List.flatten_cons, List.take_append_of_le_length (Nat.le_of_lt hinside)]
        rfl
      · exact fun hnil => Nat.not_le.mpr hinside (List.drop_eq_nil_iff.mp hnil)
    · obtain ⟨front, part, rest, back, hparts, hkept, hrest⟩ :=
        ih (show n - s.length < parts.flatten.length by omega)
      refine ⟨s :: front, part, rest, back, ?_, ?_, hrest⟩
      · rw [hparts, List.cons_append]
      · rw [List.flatten_cons, List.take_append, hkept, List.take_of_length_le hbehind,
          List.flatten_cons, List.append_assoc]

/-- **Every cut of a body parts one sequence, or none.** -/
theorem exists_parts {body : List Char} {n : Nat} (h : n < body.length) :
    ∃ part, Parts body (body.take n) part := by
  rw [← flatten_sequences body] at h
  obtain ⟨front, part, rest, back, hparts, hkept, hrest⟩ := exists_take_flatten h
  rw [flatten_sequences] at hkept
  exact ⟨part, front, rest, back, hparts, hkept, hrest⟩

/-- **A cut falls between two sequences exactly if nothing is kept of the next one.** -/
theorem Parts.atBoundary_iff {body kept part : List Char} (h : Parts body kept part) :
    AtBoundary body kept ↔ part = [] := by
  obtain ⟨front, rest, back, hbody, rfl, hrest⟩ := h
  constructor
  · rintro ⟨other, behind, hother, hkept⟩
    have hfront : front <+: sequences body := hbody ▸ List.prefix_append _ _
    have hprefix : other <+: sequences body := hother ▸ List.prefix_append _ _
    rcases List.prefix_or_prefix_of_prefix hprefix hfront with ⟨more, rfl⟩ | ⟨more, rfl⟩
    · -- the boundary is not behind the sequences that are kept as a whole
      rw [List.flatten_append, List.append_assoc, List.append_right_eq_self] at hkept
      exact (List.append_eq_nil_iff.mp hkept).2
    · rw [List.flatten_append, List.append_cancel_left_eq] at hkept
      rw [hbody, List.append_assoc, List.append_cancel_left_eq] at hother
      cases more with
      | nil => exact hkept
      | cons s more =>
        obtain ⟨rfl, -⟩ := List.cons.inj hother
        rw [List.flatten_cons, List.append_assoc, List.self_eq_append_right] at hkept
        exact absurd (List.append_eq_nil_iff.mp hkept).1 hrest
  · rintro rfl
    exact ⟨front, _, hbody, List.append_nil _⟩

/-- A cut that keeps more than the backslash of a sequence keeps the start of an escape. -/
theorem exists_escape_of_parted {body part rest : List Char} {front back : List (List Char)}
    (h : sequences body = front ++ (part ++ rest) :: back) (hrest : rest ≠ [])
    (hpart : part ≠ []) (hbackslash : part ≠ ['\\']) :
    ∃ first cs kept, ((part ++ rest) :: back).flatten = '\\' :: first :: cs ∧
      kept < escapeRest first cs ∧ part = '\\' :: first :: cs.take kept := by
  have hrow := sequences_behind h
  have hrests := List.length_pos_of_ne_nil hrest
  generalize ((part ++ rest) :: back).flatten = text at hrow ⊢
  fun_cases sequences text with
  | case1 => rw [sequences] at hrow; cases hrow
  | case2 first cs =>
    rw [sequences] at hrow
    obtain ⟨c, part, rfl⟩ := List.exists_cons_of_ne_nil hpart
    obtain ⟨rfl, hfirst⟩ := List.cons.inj (List.cons.inj hrow).1
    obtain ⟨d, run, rfl⟩ := List.exists_cons_of_ne_nil fun hnil : part = [] =>
      hbackslash (by rw [hnil])
    obtain ⟨rfl, hrun⟩ : first = d ∧ cs.take (escapeRest first cs) = run ++ rest :=
      List.cons.inj hfirst
    have hlength := congrArg List.length hrun
    rw [List.length_append, List.length_take] at hlength
    have hprefix : run <+: cs := (hrun ▸ List.prefix_append run rest).trans (List.take_prefix _ _)
    exact ⟨first, cs, run.length, rfl, by omega,
      congrArg ('\\' :: first :: ·) (List.prefix_iff_eq_take.mp hprefix)⟩
  | case3 c cs hplain =>
    -- a single character is not parted
    rw [sequences.eq_3 c cs hplain] at hrow
    have hlength := congrArg List.length (List.cons.inj hrow).1
    have hparts := List.length_pos_of_ne_nil hpart
    rw [List.length_append, List.length_singleton] at hlength
    omega

theorem trailingBackslashes_parts {parts : List Char} (h : ∀ c ∈ parts, isEscapePart c = true)
    (cs : List Char) : trailingBackslashes (parts ++ cs) = trailingBackslashes cs := by
  induction parts with
  | nil => rfl
  | cons c parts ih =>
    obtain ⟨hc, hparts⟩ := List.forall_mem_cons.mp h
    have hbackslash : c ≠ '\\' := fun heq => absurd (heq ▸ hc) (by decide)
    rw [List.cons_append, trailingBackslashes_cons_of_ne hbackslash, ih hparts]

/-- Whole sequences in front change the run of backslashes at the end by an even number. -/
theorem trailingBackslashes_front {body : List Char} {front back : List (List Char)}
    (h : sequences body = front ++ back) (hback : back ≠ []) (cs : List Char) :
    trailingBackslashes (front.flatten ++ cs) % 2 = trailingBackslashes cs % 2 := by
  fun_induction sequences body generalizing front with
  | case1 =>
    obtain ⟨rfl, -⟩ := List.append_eq_nil_iff.mp h.symm
    rfl
  | case2 first tail ih =>
    rcases List.cons_eq_append_iff.mp h with ⟨rfl, -⟩ | ⟨front, rfl, hfront⟩
    · rfl
    · rw [List.flatten_cons, List.append_assoc, List.cons_append, List.cons_append,
        trailingBackslashes_escaped, trailingBackslashes_parts (escapeRest_parts first tail),
        ih hfront]
  | case3 c tail hplain ih =>
    rcases List.cons_eq_append_iff.mp h with ⟨rfl, -⟩ | ⟨front, rfl, hfront⟩
    · rfl
    · have hc : c ≠ '\\' := by
        -- a backslash that stands for itself is the last of the row
        rintro rfl
        cases tail with
        | nil =>
          rw [sequences] at hfront
          exact hback (List.append_eq_nil_iff.mp hfront.symm).2
        | cons first tail => exact hplain first tail rfl rfl
      rw [List.flatten_cons, List.append_assoc, List.singleton_append,
        trailingBackslashes_cons_of_ne hc, ih hfront]

/-- **A cut behind an even run of backslashes keeps no backslash alone.** -/
theorem Parts.ne_backslash {body kept part : List Char} (h : Parts body kept part)
    (heven : trailingBackslashes kept % 2 = 0) : part ≠ ['\\'] := by
  rintro rfl
  obtain ⟨front, rest, back, hbody, rfl, -⟩ := h
  rw [trailingBackslashes_front hbody (List.cons_ne_nil _ _)] at heven
  exact absurd heven (by decide)

end VmScan.Script
