import VmScan.Proofs.Script.Shortened

/-!
# A shortened literal ends where it should

A literal ends at the first mark that can close it and is not escaped, and what is escaped is found
by reading from the left. The cut of a long body (`_shorten`) is made by counting backslashes from
the right: it leaves an even run of them. That is enough, for in a body that was read without
meeting a mark a cut leaves a backslash without the character behind it just where the run in front
of the cut is odd.

* `firstEnd` — the first mark that a text meets, read from the left, with what stands in front of it.
* `IsPlain` — the characters that are read on in every literal.

Results:
* `trailingBackslashes_escaped`: an escape in front changes the run at the end by an even number.
* `Unclosed.take`: a body cut behind an even run is read without meeting a mark.
* `even_keptLength`: the cut of a long body is made behind an even run.
* `isPlain_of_mem_cutMark`: the note is made of such characters.
* `firstEnd_of_unclosed`: behind a body that is read without meeting a mark, the closing one is met.
* `shorten_closes`: a shortened literal closes with the mark behind the note, which is the one that
  the literal closed with.
* `literalSpans_shorten`: so does every literal that scanning finds.
-/

namespace VmScan.Script

open VmScan.Text

/-! ## Reading a literal -/

/-- The first of the marks that the text meets, with what stands in front of it: read from the left,
with a backslash passing over the character behind it. -/
def firstEnd (marks : List (List Char)) : List Char → Option (List Char × List Char)
  | [] => none
  | ['\\'] => none
  | '\\' :: c :: cs => (firstEnd marks cs).map fun (front, mark) => ('\\' :: c :: front, mark)
  | c :: cs =>
    match marks.find? (·.isPrefixOf (c :: cs)) with
    | some mark => some ([], mark)
    | none => (firstEnd marks cs).map fun (front, mark) => (c :: front, mark)

/-- The characters that are not simply read on: the backslash, and those that a mark starts with. -/
def stops : List Char :=
  ['\\', '\'', '"', '\x60', '$']

/-- What a mark that can close a literal is made of. -/
theorem mem_endsOf {opening : Char} {mark : List Char} (h : mark ∈ endsOf opening) :
    ∃ first rest, mark = first :: rest ∧ first ∈ stops ∧ (rest = [] ∨ rest = ['\x7b']) := by
  unfold endsOf at h
  split_ifs at h with hquote
  · rw [List.mem_singleton.mp h]
    refine ⟨opening, [], rfl, ?_, Or.inl rfl⟩
    rcases hquote with rfl | rfl <;> decide
  · rcases List.mem_pair.mp h with rfl | rfl
    · exact ⟨'\x60', [], rfl, by decide, Or.inl rfl⟩
    · exact ⟨'$', ['\x7b'], rfl, by decide, Or.inr rfl⟩

section Reading

variable {opening : Char} {body after : List Char}

/-- A mark that is met across the end of a text goes on with a brace behind it. -/
theorem prefix_of_prefix_append {mark : List Char} {c : Char} (hmark : mark ∈ endsOf opening)
    (hafter : after.head? ≠ some '\x7b') (h : mark <+: c :: (body ++ after)) :
    mark <+: c :: body := by
  obtain ⟨first, rest, rfl, -, hrest⟩ := mem_endsOf hmark
  obtain ⟨hfirst, hmet⟩ := List.cons_prefix_cons.mp h
  refine List.cons_prefix_cons.mpr ⟨hfirst, ?_⟩
  rcases hrest with rfl | rfl
  · exact List.nil_prefix
  · -- of the marks only the one that opens a substitution has a second character
    cases body with
    | nil =>
      obtain ⟨tail, htail⟩ := hmet
      rw [List.nil_append] at htail
      exact absurd (congrArg List.head? htail.symm) hafter
    | cons d body =>
      exact List.cons_prefix_cons.mpr ⟨(List.cons_prefix_cons.mp hmet).1, List.nil_prefix⟩

/-- Two texts are read one behind the other, unless a mark could be met across. -/
theorem Unclosed.append (h : Unclosed (endsOf opening) body)
    (hafter : Unclosed (endsOf opening) after) (hhead : after.head? ≠ some '\x7b') :
    Unclosed (endsOf opening) (body ++ after) := by
  induction h with
  | nil => exact hafter
  | escaped c _ ih => exact .escaped c ih
  | plain hc hmarks _ ih =>
    exact .plain hc (fun mark hmark hmet =>
      hmarks mark hmark (prefix_of_prefix_append hmark hhead hmet)) ih

theorem unclosed_of_all (h : body.all (· ∉ stops) = true) :
    Unclosed (endsOf opening) body := by
  induction body with
  | nil => exact .nil
  | cons c body ih =>
    rw [List.all_cons, Bool.and_eq_true, decide_eq_true_eq] at h
    obtain ⟨hc, hbody⟩ := h
    refine .plain (List.ne_of_not_mem_cons hc) (fun mark hmark hmet => ?_) (ih hbody)
    obtain ⟨first, rest, rfl, hfirst, -⟩ := mem_endsOf hmark
    rw [(List.cons_prefix_cons.mp hmet).1] at hfirst
    exact hc hfirst

/-- A body is passed over by reading. -/
theorem firstEnd_append (h : Unclosed (endsOf opening) body) (hafter : after.head? ≠ some '\x7b')
    {front mark : List Char} (hend : firstEnd (endsOf opening) after = some (front, mark)) :
    firstEnd (endsOf opening) (body ++ after) = some (body ++ front, mark) := by
  induction h with
  | nil => exact hend
  | @escaped c rest _ ih =>
    rw [List.cons_append, List.cons_append, firstEnd, ih]
    rfl
  | @plain c rest hc hmarks _ ih =>
    have hnone : (endsOf opening).find? (·.isPrefixOf (c :: (rest ++ after))) = none :=
      List.find?_eq_none.mpr fun mark hmark hmet => hmarks mark hmark
        (prefix_of_prefix_append hmark hafter (List.isPrefixOf_iff_prefix.mp hmet))
    rw [List.cons_append, firstEnd, hnone, ih]
    · rfl
    · exact fun heq => absurd heq hc
    · exact fun _ _ heq => absurd heq hc

/-- The mark that closes a literal is the first that is met behind its body. -/
theorem firstEnd_of_unclosed {closing : List Char} (hdelimiters : Delimiters opening closing)
    (h : Unclosed (endsOf opening) body) (after : List Char) :
    firstEnd (endsOf opening) (body ++ closing ++ after) = some (body, closing) := by
  have hclosing : firstEnd (endsOf opening) (closing ++ after) = some ([], closing) ∧
      (closing ++ after).head? ≠ some '\x7b' := by
    obtain hquote | ⟨hopening, hmark⟩ := hdelimiters
    · rcases hquote with rfl | rfl <;> exact ⟨rfl, by simp⟩
    · rw [endsOf_mark hopening]
      rcases List.mem_pair.mp hmark with rfl | rfl <;> exact ⟨rfl, by simp⟩
  rw [List.append_assoc, firstEnd_append h hclosing.2 hclosing.1, List.append_nil]

end Reading

/-! ## Cutting a body -/

theorem trailingBackslashes_le (cs : List Char) : trailingBackslashes cs ≤ cs.length :=
  (List.takeWhile_prefix _).length_le.trans_eq List.length_reverse

theorem trailingBackslashes_cons (c : Char) (cs : List Char) :
    trailingBackslashes (c :: cs) =
      if trailingBackslashes cs = cs.length then cs.length + (if c = '\\' then 1 else 0)
      else trailingBackslashes cs := by
  unfold trailingBackslashes
  rw [List.reverse_cons, List.takeWhile_append, List.length_reverse]
  split_ifs <;> simp [*]

theorem trailingBackslashes_cons_of_ne {c : Char} (hc : c ≠ '\\') (cs : List Char) :
    trailingBackslashes (c :: cs) = trailingBackslashes cs := by
  rw [trailingBackslashes_cons, if_neg hc, Nat.add_zero]
  split_ifs with hall
  · exact hall.symm
  · rfl

/-- **An escape in front changes the run at the end by an even number**: by none, unless the rest is
nothing but backslashes and the escaped character is one too. -/
theorem trailingBackslashes_escaped (c : Char) (cs : List Char) :
    trailingBackslashes ('\\' :: c :: cs) % 2 = trailingBackslashes cs % 2 := by
  have hle := trailingBackslashes_le cs
  simp only [trailingBackslashes_cons, List.length_cons]
  split_ifs <;> omega

/-- **Up to a cut behind an even run** a body is read without meeting a mark, as it is as a
whole. -/
theorem Unclosed.take {marks : List (List Char)} {body : List Char} (h : Unclosed marks body)
    {n : Nat} (heven : trailingBackslashes (body.take n) % 2 = 0) :
    Unclosed marks (body.take n) := by
  -- on the reading of the body: both steps leave the parity of the run at the cut as it is
  induction h generalizing n with
  | nil =>
    rw [List.take_nil]
    exact .nil
  | escaped c _ ih =>
    match n with
    | 0 => exact .nil
    | 1 => cases heven -- the cut would part the backslash from the character that it escapes
    | n + 2 =>
      rw [List.take_succ_cons, List.take_succ_cons] at heven ⊢
      rw [trailingBackslashes_escaped] at heven
      exact .escaped c (ih heven)
  | @plain c rest hc hmarks _ ih =>
    match n with
    | 0 => exact .nil
    | n + 1 =>
      rw [List.take_succ_cons] at heven ⊢
      rw [trailingBackslashes_cons_of_ne hc] at heven
      have hprefix : c :: rest.take n <+: c :: rest :=
        (List.prefix_cons_inj c).mpr (List.take_prefix n rest)
      exact .plain hc (fun mark hmark hmet => hmarks mark hmark (hmet.trans hprefix)) (ih heven)

/-- **The cut of a long body is made behind an even run**: where the run in front of the limit is
odd, the cut is made one character earlier. -/
theorem even_keptLength {limit : Nat} {body : List Char} (h : limit < body.length) :
    trailingBackslashes (body.take (keptLength limit body)) % 2 = 0 := by
  unfold keptLength
  split_ifs with hodd
  · obtain ⟨front, hfront, hlast⟩ := endsInRun_iff.mpr rfl
    obtain ⟨run, hrun⟩ : ∃ run, trailingBackslashes (body.take limit) = run + 1 :=
      Nat.exists_eq_add_one.mpr (by omega)
    rw [hrun, List.replicate_succ', ← List.append_assoc] at hfront
    have hcut : body.take (limit - 1) = front ++ List.replicate run '\\' := by
      rw [← List.dropLast_take h, hfront, List.dropLast_concat]
    rw [hcut, trailingBackslashes_append hlast]
    omega
  · omega

/-! ## Characters that are read on -/

/-- A character that is read on in every literal: no backslash, no line end, and none that a closing
mark starts with. -/
def IsPlain (c : Char) : Prop :=
  c ∉ stops ∧ isLineTerminator c = false

instance : DecidablePred IsPlain := fun c =>
  inferInstanceAs (Decidable (c ∉ stops ∧ isLineTerminator c = false))

theorem bounds_of_isHexDigit {c : Char} (h : isHexDigit c = true) :
    '0'.toNat ≤ c.toNat ∧ c.toNat ≤ 'f'.toNat := by
  have hle : ∀ a b : Char, a ≤ b → a.toNat ≤ b.toNat := fun _ _ hab => hab
  rw [isHexDigit, hexValue?] at h
  split_ifs at h with hdigit hlower hupper
  · rw [isAsciiDigit, Bool.and_eq_true, decide_eq_true_eq, decide_eq_true_eq] at hdigit
    exact ⟨hle _ _ hdigit.1, (hle _ _ hdigit.2).trans (by decide)⟩
  · rw [Bool.and_eq_true, decide_eq_true_eq, decide_eq_true_eq] at hlower
    exact ⟨Nat.le_trans (by decide) (hle _ _ hlower.1), hle _ _ hlower.2⟩
  · rw [Bool.and_eq_true, decide_eq_true_eq, decide_eq_true_eq] at hupper
    exact ⟨Nat.le_trans (by decide) (hle _ _ hupper.1), (hle _ _ hupper.2).trans (by decide)⟩
  · cases h

theorem isPlain_of_isHexDigit {c : Char} (h : isHexDigit c = true) : IsPlain c := by
  constructor
  · intro hc
    have hstops : stops.all (!isHexDigit ·) = true := by decide
    have hnot := List.all_eq_true.mp hstops c hc
    rw [h] at hnot
    cases hnot
  · rw [Bool.eq_false_iff]
    intro hend
    obtain ⟨hlow, hhigh⟩ := bounds_of_isHexDigit h
    have hzero : '0'.toNat = 48 := rfl
    have hlast : 'f'.toNat = 102 := rfl
    simp only [isLineTerminator, Bool.or_eq_true, decide_eq_true_eq, beq_iff_eq] at hend
    obtain ((rfl | rfl) | hend) | hend := hend
    · exact absurd hlow (by decide)
    · exact absurd hlow (by decide)
    · omega
    · omega

/-- The note is read on in every literal. -/
theorem isPlain_of_mem_cutMark {count : Nat} {c : Char} (h : c ∈ cutMark count) : IsPlain c := by
  have hends : ("...[+".toList ++ " chars]".toList).all (decide <| IsPlain ·) = true := by decide
  simp only [List.all_append, Bool.and_eq_true, List.all_eq_true, decide_eq_true_eq] at hends
  simp only [cutMark, String.toList_append, List.mem_append] at h
  rcases h with (hopen | hdigit) | hclose
  · exact hends.1 c hopen
  · rw [show (toString count).toList = Nat.toDigits 10 count from Nat.toList_repr] at hdigit
    have hascii : isAsciiDigit c = true :=
      Nat.isDigit_of_mem_toDigits (by decide) (by decide) hdigit
    exact isPlain_of_isHexDigit (isHexDigit_of_isAsciiDigit hascii)
  · exact hends.2 c hclose

/-- The note is read without meeting a mark. -/
theorem unclosed_cutMark (opening : Char) (count : Nat) :
    Unclosed (endsOf opening) (cutMark count) :=
  unclosed_of_all (List.all_eq_true.mpr fun _ hc => decide_eq_true (isPlain_of_mem_cutMark hc).1)

/-! ## Shortened literals -/

theorem head?_cutMark (count : Nat) : (cutMark count).head? = some '.' := by
  simp only [cutMark, String.toList_append, List.append_assoc]
  rfl

/-- What a shortened literal holds between its marks is read without meeting one. -/
theorem Unclosed.cut {opening : Char} {body : List Char} (h : Unclosed (endsOf opening) body)
    {limit : Nat} (hlong : limit < body.length) (count : Nat) :
    Unclosed (endsOf opening) (body.take (keptLength limit body) ++ cutMark count) := by
  have hhead : (cutMark count).head? ≠ some '\x7b' := by
    rw [head?_cutMark]
    decide
  exact (h.take (even_keptLength hlong)).append (unclosed_cutMark opening count) hhead

/-- **A shortened literal ends where it should.** A literal with a body that is read without meeting
a mark closes with the mark behind its body. Shortened it is between the same marks, and read from
the left it closes with the one behind the note. -/
theorem shorten_closes {opening : Char} {body closing : List Char}
    (hdelimiters : Delimiters opening closing) (hbody : Unclosed (endsOf opening) body)
    (limit : Nat) :
    firstEnd (endsOf opening) (body ++ closing) = some (body, closing) ∧
      ∃ inside feeds,
        shorten limit (opening :: (body ++ closing))
          = opening :: (inside ++ closing ++ List.replicate feeds '\n') ∧
        firstEnd (endsOf opening) (inside ++ closing ++ List.replicate feeds '\n')
          = some (inside, closing) ∧
        (body.length ≤ limit → inside = body ∧ feeds = 0) ∧
        (limit < body.length → ∃ kept removed, body = kept ++ removed ∧
          inside = kept ++ cutMark removed.length ∧ feeds = removed.count '\n') := by
  have hwhole : firstEnd (endsOf opening) (body ++ closing) = some (body, closing) := by
    have hend := firstEnd_of_unclosed hdelimiters hbody []
    rwa [List.append_nil] at hend
  refine ⟨hwhole, ?_⟩
  rw [shorten_eq hdelimiters]
  split_ifs with hlong
  · have hsplit := (List.take_append_drop (keptLength limit body) body).symm
    refine ⟨_, _, rfl, firstEnd_of_unclosed hdelimiters (hbody.cut hlong _) _, fun hle => ?_,
      fun _ => ⟨_, _, hsplit, rfl, rfl⟩⟩
    exact absurd hlong (Nat.not_lt.mpr hle)
  · refine ⟨body, 0, ?_, ?_, fun _ => ⟨rfl, rfl⟩, fun hlt => absurd hlt hlong⟩
    · rw [List.replicate_zero, List.append_nil]
    · rw [List.replicate_zero, List.append_nil, hwhole]

/-- A piece of a template that is cut behind a dollar, in front of an escaped backtick. -/
theorem shorten_closes_behindDollar :
    let body := ['x', '$', '\\', '\x60', 'y', 'z']
    Delimiters '\x7d' ['$', '\x7b'] ∧ Unclosed (endsOf '\x7d') body ∧
      shorten 3 ('\x7d' :: (body ++ ['$', '\x7b'])) = "\x7dx$...[+4 chars]$\x7b".toList ∧
      ∃ inside feeds,
        "\x7dx$...[+4 chars]$\x7b".toList
          = '\x7d' :: (inside ++ ['$', '\x7b'] ++ List.replicate feeds '\n') ∧
        firstEnd (endsOf '\x7d') (inside ++ ['$', '\x7b'] ++ List.replicate feeds '\n')
          = some (inside, ['$', '\x7b']) := by
  intro body
  have hdelimiters : Delimiters '\x7d' ['$', '\x7b'] := .marks (Or.inr rfl) (by decide)
  have hbody : Unclosed (endsOf '\x7d') body :=
    .plain (by decide) (by decide) (.plain (by decide) (by decide)
      (.escaped '\x60' (unclosed_of_all (by decide))))
  have hshort : shorten 3 ('\x7d' :: (body ++ ['$', '\x7b']))
      = "\x7dx$...[+4 chars]$\x7b".toList := by decide +kernel
  obtain ⟨-, inside, feeds, heq, hend, -⟩ := shorten_closes hdelimiters hbody 3
  exact ⟨hdelimiters, hbody, hshort, inside, feeds, hshort.symm.trans heq, hend⟩

/-- Shortened, a closed literal is closed, with line feeds behind it. -/
theorem Closed.shorten {literal : List Char} (h : Closed literal) (limit : Nat) :
    ∃ short feeds, shorten limit literal = short ++ List.replicate feeds '\n' ∧ Closed short := by
  obtain ⟨hdelimiters, hbody⟩ := h
  rw [shorten_eq hdelimiters]
  split_ifs with hlong
  · exact ⟨_, _, rfl, .mk hdelimiters (hbody.cut hlong _)⟩
  · exact ⟨_, 0, (List.append_nil _).symm, .mk hdelimiters hbody⟩

/-- **Every literal that scanning finds ends where it should once it is shortened.** -/
theorem literalSpans_shorten {takes : PatternTest} {script : List Char} {spans : List Span}
    (h : literalSpansWith takes script = .ok spans) (limit : Nat) :
    ∀ span ∈ spans, ∃ short feeds,
      shorten limit (span.text script) = short ++ List.replicate feeds '\n' ∧
        Closed short :=
  fun span hspan => (literalSpans_closed h span hspan).shorten limit

end VmScan.Script
