import VmScan.Proofs.Script.Reading

/-!
# A cut within an escape

The cut of a long body is moved off a backslash that would stand there without the character behind
it, and is not moved otherwise: it can fall between the digits of an escape, or in front of them.
What is kept of the escape then stands in front of the note. In most forms it is no escape any more,
and the shortened literal cannot be scanned.

* `TakenAs`, `RefusedAt` — what scanning makes of a text where it stands, whatever is behind it.
* `keptBody`, `shortOf` — the kept part of a body, and the literal that is cut behind it.

Results:
* `scanToken_shortOf`: a shortened token is one of the same kind exactly if what the cut keeps of a
  sequence is readable, and is refused otherwise.
* `scan_shortOf`: this holds for every string and every piece of a template that scanning finds, and
  the cut falls between two sequences exactly if nothing is kept of the next one.
* `truncate_parts_hexEscape`: a string that is scanned, and is not any more once it is shortened.
-/

namespace VmScan.Script

/-! ## Tokens whatever stands behind -/

/-- Wherever these braces are open, the text is one token of the kind, whatever stands behind it. -/
def TakenAs (opened : List Opened) (kind : LexemeKind) (behind : List Opened)
    (text : List Char) : Prop :=
  ∃ first cs, text = first :: cs ∧ ∀ (takes : PatternTest) (place : Place),
    place.opened = opened → ∀ after,
      place.token takes first (cs ++ after) = .ok ⟨kind, cs.length, behind⟩

/-- Wherever these braces are open, the text cannot be scanned, whatever stands behind it. -/
def RefusedAt (opened : List Opened) (text : List Char) : Prop :=
  ∃ first cs, text = first :: cs ∧ ∀ (takes : PatternTest) (place : Place),
    place.opened = opened → ∀ after,
      ∃ failure, place.token takes first (cs ++ after) = .error failure

section Tokens

variable {opened : List Opened} {first : Char} {cs : List Char} {token : Token}

/-- A literal token is read as the literals with its opening mark are; what is read behind the same
mark up to the same closing one is a token of the same kind. -/
theorem exists_reader (h : scanToken opened first cs = .ok token)
    (hkind : token.kind.isLiteral = true) :
    ∃ escapeOf read, Reader token.kind first escapeOf read ∧ read cs = .ok token.rest ∧
      (∀ other length, read other = .ok length →
        (other.take length).getLast? = (cs.take token.rest).getLast? →
        scanToken opened first other = .ok ⟨token.kind, length, token.opened⟩) ∧
      (∀ other fault, read other = .error fault →
        ∃ fault, scanToken opened first other = .error fault) := by
  rcases scanToken_literal h hkind with
    ⟨hquote, hlength, hstring, hopened⟩ | ⟨hpiece, hlength, htemplate⟩
  · rw [hstring, hopened]
    refine ⟨_, _, reader_string hquote, hlength, fun other length hother _ => ?_,
      fun other fault hother => ?_⟩
    · rw [scanToken_quote hquote, hother]
      simp only [advance, Nat.add_sub_cancel_left]
    · rw [scanToken_quote hquote, hother]
      exact ⟨_, rfl⟩
  · rw [htemplate]
    refine ⟨_, _, reader_template (hpiece.imp_right And.left), hlength,
      fun other length hother hlast => ?_, fun other fault hother => ?_⟩
    · rw [scanToken_piece hpiece, scanTemplate, hlength] at h
      rw [scanToken_piece hpiece, scanTemplate, hother]
      simp only [advance, Nat.add_sub_cancel_left, hlast] at h ⊢
      rw [← Except.ok.inj h]
    · rw [scanToken_piece hpiece, scanTemplate, hother]
      exact ⟨_, rfl⟩

end Tokens

/-! ## Literals up to their closing mark -/

theorem Delimiters.mem_endsOf {opening : Char} {closing : List Char}
    (h : Delimiters opening closing) : closing ∈ endsOf opening := by
  cases h with
  | quotes hquote => rw [endsOf_quote hquote]; exact List.mem_singleton_self _
  | marks hopening hclosing => rwa [endsOf_mark hopening]

theorem Delimiters.opening_ne_slash {opening : Char} {closing : List Char}
    (h : Delimiters opening closing) : opening ≠ '/' := by
  cases h with
  | quotes hquote => rcases hquote with rfl | rfl <;> decide
  | marks hopening hclosing => rcases hopening with rfl | rfl <;> decide

/-- A closing mark does not go on with an escape. -/
theorem isEscapePart_mark {opening : Char} {mark : List Char} (h : mark ∈ endsOf opening)
    (after : List Char) : ∀ c ∈ (mark ++ after).head?, isEscapePart c = false := by
  obtain ⟨first, rest, rfl, hfirst, -⟩ := mem_endsOf h
  have hstops : stops.all (!isEscapePart ·) = true := by decide
  have hnot := List.all_eq_true.mp hstops first hfirst
  rw [Bool.not_eq_true'] at hnot
  intro c hc
  rwa [← Option.some.inj hc]

/-- The part of the body that is kept of a long literal. -/
def keptBody (limit : Nat) (literal : List Char) : List Char :=
  (bodyOf literal).take (keptLength limit (bodyOf literal))

/-- A long literal with its body cut, without the line feeds that are put back behind it. -/
def shortOf (limit : Nat) (literal : List Char) : List Char :=
  keptOf limit literal ++ cutMark (removedOf limit literal).length ++ closingOf literal

theorem shorten_eq_shortOf {limit : Nat} {literal : List Char} (h : isLong limit literal = true) :
    shorten limit literal = shortOf limit literal
      ++ List.replicate ((removedOf limit literal).count '\n') '\n' :=
  if_pos h

theorem Delimiters.shortOf_eq {opening : Char} {closing : List Char}
    (h : Delimiters opening closing) (body : List Char) (limit : Nat) :
    shortOf limit (opening :: (body ++ closing))
      = opening :: (body.take (keptLength limit body)
        ++ cutMark (body.drop (keptLength limit body)).length ++ closing) := by
  simp only [shortOf, keptOf, removedOf, h.bodyOf_eq, h.closingOf_eq, List.take_succ_cons,
    List.take_zero, List.cons_append, List.nil_append]

/-- **What is kept of a parted sequence decides.** The shortened token is one of the same kind if
that is readable, and else none. -/
theorem scanToken_shortOf {opened : List Opened} {first : Char} {cs : List Char} {token : Token}
    (h : scanToken opened first cs = .ok token) (hkind : token.kind.isLiteral = true) :
    TakenAs opened token.kind token.opened (first :: cs.take token.rest) ∧
      ∀ limit, isLong limit (first :: cs.take token.rest) = true → ∃ part,
        Parts (bodyOf (first :: cs.take token.rest))
          (keptBody limit (first :: cs.take token.rest)) part ∧
        (Readable token.kind part → TakenAs opened token.kind token.opened
          (shortOf limit (first :: cs.take token.rest))) ∧
        (¬ Readable token.kind part →
          RefusedAt opened (shortOf limit (first :: cs.take token.rest))) := by
  have hclosed := scanToken_closed h hkind
  obtain ⟨escapeOf, read, hr, hread, htaken, hrefused⟩ := exists_reader h hkind
  generalize hliteral : first :: cs.take token.rest = literal at hclosed ⊢
  obtain @⟨opening, body, closing, hdelimiters, hbody⟩ := hclosed
  obtain ⟨rfl, htake⟩ := List.cons.inj hliteral
  have hclosing := hdelimiters.mem_endsOf
  have hne : closing ≠ [] := by
    obtain ⟨c, rest, rfl, -⟩ := mem_endsOf hclosing
    exact List.cons_ne_nil c rest
  have hcs : cs = body ++ (closing ++ cs.drop token.rest) := by
    rw [← List.append_assoc, ← htake, List.take_append_drop]
  have hafter := isEscapePart_mark hclosing (cs.drop token.rest)
  rw [hcs] at hread
  -- what is read up to the closing mark is one token, and ends as the literal does
  have htoken : ∀ inside, (∀ after,
      read (inside ++ (closing ++ after)) = .ok (inside ++ closing).length) →
      TakenAs opened token.kind token.opened (first :: (inside ++ closing)) := by
    intro inside hinside
    refine ⟨first, inside ++ closing, rfl, fun takes place hplace after => ?_⟩
    rw [Place.token_of_ne hdelimiters.opening_ne_slash, hplace,
      htaken _ _ (by rw [List.append_assoc, hinside after])]
    · rfl
    rw [List.take_left, htake, List.getLast?_append_of_ne_nil _ hne,
      List.getLast?_append_of_ne_nil _ hne]
  constructor
  · refine htoken body fun after => ?_
    have hwhole := hr.front hafter hbody hread (List.append_nil _).symm
      (Or.inr (isEscapePart_mark hclosing after))
    rwa [flatten_sequences, hr.closing hclosing, advance_length] at hwhole
  · intro limit hlong
    rw [isLong, hdelimiters.bodyOf_eq, decide_eq_true_eq] at hlong
    rw [keptBody, hdelimiters.bodyOf_eq, hdelimiters.shortOf_eq]
    obtain ⟨part, hparts⟩ := exists_parts ((keptLength_le limit body).trans_lt hlong)
    refine ⟨part, hparts, ?_⟩
    have hdot : ∀ after, (cutMark (body.drop (keptLength limit body)).length
        ++ (closing ++ after)).head? = some '.' := fun after => by
      rw [List.head?_append, head?_cutMark]
      rfl
    have hcut := fun after => hr.cut hafter hbody hread hparts
      (hparts.ne_backslash (even_keptLength hlong)) (hdot after)
    constructor
    · intro hreadable
      refine htoken _ fun after => ?_
      rw [List.append_assoc, (hcut after).1 hreadable, hr.note hclosing, advance_length,
        List.append_assoc]
    · intro hreadable
      refine ⟨first, _, rfl, fun takes place hplace after => ?_⟩
      obtain ⟨fault, hfault⟩ := (hcut after).2 hreadable
      rw [← List.append_assoc, ← List.append_assoc] at hfault
      obtain ⟨fault, hrefusal⟩ := hrefused _ fault hfault
      rw [Place.token_of_ne hdelimiters.opening_ne_slash, hplace, hrefusal]
      exact ⟨_, rfl⟩

/-- **The cut of a long literal, and what scanning takes it for.** Each string and each piece of a
template that scanning finds is one token whatever stands behind it. If it is long, its cut keeps
some part of the sequence that it falls into, and falls between two sequences only if that is
nothing. If the part is readable, the shortened literal is one token of the same kind, with the same
braces open behind it; else it is refused. -/
theorem scan_shortOf {takes : PatternTest} {script : List Char} {lexemes : List Lexeme}
    (h : scan takes script = .ok lexemes) :
    ∀ lexeme ∈ lexemes, lexeme.isLiteral = true → ∃ opened behind,
      TakenAs opened lexeme.kind behind lexeme.text ∧
      ∀ limit, isLong limit lexeme.text = true →
        (∃ feeds, shorten limit lexeme.text
          = shortOf limit lexeme.text ++ List.replicate feeds '\n') ∧
        ∃ part, Parts (bodyOf lexeme.text) (keptBody limit lexeme.text) part ∧
          (AtBoundary (bodyOf lexeme.text) (keptBody limit lexeme.text) ↔ part = []) ∧
          (Readable lexeme.kind part →
            TakenAs opened lexeme.kind behind (shortOf limit lexeme.text)) ∧
          (¬ Readable lexeme.kind part → RefusedAt opened (shortOf limit lexeme.text)) := by
  intro lexeme hmem hliteral
  obtain ⟨opened, first, cs, token, htoken, rfl⟩ := scanFrom_literal h lexeme hmem hliteral
  obtain ⟨htaken, hshort⟩ := scanToken_shortOf htoken hliteral
  refine ⟨opened, token.opened, htaken, fun limit hlong => ⟨⟨_, shorten_eq_shortOf hlong⟩, ?_⟩⟩
  obtain ⟨part, hparts, hcut⟩ := hshort limit hlong
  exact ⟨part, hparts, hparts.atBoundary_iff, hcut⟩

/-- A string with an escape of two digits, cut in front of them. -/
theorem scan_shortOf_hexEscape :
    let literal := "'a\\x41b'".toList
    let short := "'a\\x...[+3 chars]'".toList
    scan Pattern.compiles literal = .ok [⟨.string, literal⟩] ∧ isLong 3 literal = true ∧
      ∃ opened behind, TakenAs opened .string behind literal ∧
        ∃ part, Parts (bodyOf literal) ['a', '\\', 'x'] part ∧
          (AtBoundary (bodyOf literal) ['a', '\\', 'x'] ↔ part = []) ∧
          (Readable .string part → TakenAs opened .string behind short) ∧
          (¬ Readable .string part → RefusedAt opened short) := by
  intro literal short
  have hscan : scan Pattern.compiles literal = .ok [⟨.string, literal⟩] :=
    eq_ok_of_toOption (by decide +kernel)
  have hlong : isLong 3 literal = true := by decide +kernel
  have hkept : keptBody 3 literal = ['a', '\\', 'x'] := by decide +kernel
  have hshort : shortOf 3 literal = short := by decide +kernel
  obtain ⟨opened, behind, htaken, hcut⟩ :=
    scan_shortOf hscan ⟨.string, literal⟩ List.mem_cons_self rfl
  obtain ⟨-, part, hparts⟩ := hcut 3 hlong
  rw [hkept, hshort] at hparts
  exact ⟨hscan, hlong, opened, behind, htaken, part, hparts⟩

/-- This cut falls into the escape, and the shortened string cannot be scanned. -/
theorem truncate_parts_hexEscape :
    scan Pattern.compiles "'a\\x41b'".toList = .ok [⟨.string, "'a\\x41b'".toList⟩] ∧
      truncate "'a\\x41b'" 3 = .ok { code := "'a\\x...[+3 chars]'" } ∧
      ¬ AtBoundary (bodyOf "'a\\x41b'".toList) ['a', '\\', 'x'] ∧
      scan Pattern.compiles "'a\\x...[+3 chars]'".toList = .error (.fault .hexEscape 1) := by
  have hbody : bodyOf "'a\\x41b'".toList = ['a', '\\', 'x', '4', '1', 'b'] := by decide +kernel
  have hparts : Parts ['a', '\\', 'x', '4', '1', 'b'] ['a', '\\', 'x'] ['\\', 'x'] :=
    ⟨[['a']], ['4', '1'], [['b']], by decide +kernel, rfl, List.cons_ne_nil _ _⟩
  refine ⟨eq_ok_of_toOption (by decide +kernel), eq_ok_of_toOption (by decide +kernel), ?_,
    by decide +kernel⟩
  rw [hbody, hparts.atBoundary_iff]
  exact List.cons_ne_nil _ _

end VmScan.Script
