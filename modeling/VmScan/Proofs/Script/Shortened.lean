import Mathlib.Data.List.TakeWhile
import VmScan.Proofs.Script.KeepsLines

/-!
# Shortening changes the long literals and nothing else

What stands for a literal in a script that `truncate_long_strings` shortens is said here apart from
it: the marks around a literal and a cut of its body are given, and the lengths have to fit.

* `EndsInRun` — a text ends in so many backslashes and no more.
* `Shortens` — a literal and what stands for it: itself, or its marks around the kept part of its
  body and a note of how many characters are missing, and the line feeds of the missing part.
* `Piece` — a literal of a script with the gap in front of it and with what stands for it;
  `spansFrom` — where the literals of a row of pieces stand.

Results:
* `endsInRun_iff`: counting backslashes from the end finds the run.
* `shorten_eq`: a literal given by its marks and its body, shortened.
* `shortens_iff`: shortening gives the one text that stands for a literal.
* `spliceFrom_eq_append`: up to the next literal the script is copied.
* `exists_pieces`: a script and the shortened script are one row of pieces, with the literals in
  the one and with what stands for them in the other.
* `truncateWith_shortens`: so it is for any tokenizer that finds proper literals.
-/

namespace VmScan.Script

/-! ## Runs of backslashes -/

/-- The text ends in `run` backslashes, and in no more. -/
def EndsInRun (run : Nat) (cs : List Char) : Prop :=
  ∃ front, cs = front ++ List.replicate run '\\' ∧ front.getLast? ≠ some '\\'

theorem trailingBackslashes_append {front : List Char} (h : front.getLast? ≠ some '\\')
    (run : Nat) : trailingBackslashes (front ++ List.replicate run '\\') = run := by
  have hfront : front.reverse.takeWhile (· = '\\') = [] := by
    rw [← List.head?_reverse] at h
    cases hreverse : front.reverse with
    | nil => rfl
    | cons c cs =>
      rw [hreverse, List.head?_cons] at h
      exact List.takeWhile_cons_of_neg (by simpa using h)
  rw [trailingBackslashes, List.reverse_append, List.reverse_replicate,
    List.takeWhile_append_of_pos (by simp), hfront, List.append_nil, List.length_replicate]

/-- Counting backslashes from the end finds the run. -/
theorem endsInRun_iff {run : Nat} {cs : List Char} :
    EndsInRun run cs ↔ trailingBackslashes cs = run := by
  constructor
  · rintro ⟨front, rfl, hfront⟩
    exact trailingBackslashes_append hfront run
  · rintro rfl
    have hrun : cs.reverse.takeWhile (· = '\\')
        = List.replicate (trailingBackslashes cs) '\\' :=
      List.eq_replicate_of_mem fun c hc => of_decide_eq_true
        (List.mem_takeWhile_imp (p := (· = '\\')) hc)
    refine ⟨(cs.reverse.dropWhile (· = '\\')).reverse, ?_, ?_⟩
    · calc cs = (cs.reverse.takeWhile (· = '\\') ++ cs.reverse.dropWhile (· = '\\')).reverse := by
            rw [List.takeWhile_append_dropWhile, List.reverse_reverse]
        _ = (cs.reverse.dropWhile (· = '\\')).reverse
            ++ List.replicate (trailingBackslashes cs) '\\' := by
            rw [List.reverse_append, hrun, List.reverse_replicate]
    · rw [List.getLast?_reverse]
      intro hhead
      have hnot := List.head?_dropWhile_not (· = '\\') cs.reverse
      rw [hhead] at hnot
      exact absurd hnot (by decide)

/-! ## What stands for a literal -/

/-- A literal and what stands for it where bodies may have `limit` characters. One with a longer
body keeps the first `limit` characters of it, and one less where these end in an odd run of
backslashes. -/
inductive Shortens (limit : Nat) : List Char → List Char → Prop where
  | whole {opening : Char} {body closing : List Char} (hdelimiters : Delimiters opening closing)
      (hbody : body.length ≤ limit) :
      Shortens limit (opening :: (body ++ closing)) (opening :: (body ++ closing))
  | cut {opening : Char} {kept removed closing : List Char} {run : Nat}
      (hdelimiters : Delimiters opening closing) (hbody : limit < (kept ++ removed).length)
      (hrun : EndsInRun run ((kept ++ removed).take limit))
      (hkept : kept.length = if run % 2 = 1 then limit - 1 else limit) :
      Shortens limit (opening :: (kept ++ removed ++ closing))
        (opening :: (kept ++ s!"...[+{removed.length} chars]".toList ++ closing
          ++ List.replicate (removed.count '\n') '\n'))

/-- **A literal given by its marks and its body, shortened.** -/
theorem shorten_eq {opening : Char} {closing : List Char} (h : Delimiters opening closing)
    (body : List Char) (limit : Nat) : shorten limit (opening :: (body ++ closing)) =
      if limit < body.length then
        opening :: (body.take (keptLength limit body)
          ++ cutMark (body.drop (keptLength limit body)).length ++ closing
          ++ List.replicate ((body.drop (keptLength limit body)).count '\n') '\n')
      else opening :: (body ++ closing) := by
  simp only [shorten, isLong, h.bodyOf_eq, h.closingOf_eq, decide_eq_true_eq, List.take_succ_cons,
    List.take_zero, List.cons_append, List.nil_append]

/-- **Shortening gives the one text that stands for a literal.** -/
theorem shortens_iff {limit : Nat} {literal text : List Char} (h : Delimited literal) :
    Shortens limit literal text ↔ text = shorten limit literal := by
  constructor
  · rintro (⟨hdelimiters, hbody⟩ | ⟨hdelimiters, hbody, hrun, hkept⟩)
    · rw [shorten_eq hdelimiters, if_neg (Nat.not_lt.mpr hbody)]
    · rename_i kept removed _ run
      have hlength : keptLength limit (kept ++ removed) = kept.length := by
        rw [keptLength, endsInRun_iff.mp hrun, hkept]
      rw [shorten_eq hdelimiters, if_pos hbody, hlength, List.take_left, List.drop_left]
      rfl
  · rintro rfl
    obtain ⟨opening, body, closing, hdelimiters, rfl⟩ := delimited_iff.mp h
    rw [shorten_eq hdelimiters]
    split_ifs with hbody
    · have hsplit := List.take_append_drop (keptLength limit body) body
      have hle := keptLength_le limit body
      have hrun : EndsInRun (trailingBackslashes (body.take limit)) (body.take limit) :=
        endsInRun_iff.mpr rfl
      have hkept : (body.take (keptLength limit body)).length
          = if trailingBackslashes (body.take limit) % 2 = 1 then limit - 1 else limit := by
        rw [List.length_take, Nat.min_eq_left (by omega), keptLength]
      conv_lhs => rw [← hsplit]
      exact .cut hdelimiters (by rwa [hsplit]) (by rwa [hsplit]) hkept
    · exact .whole hdelimiters (Nat.le_of_not_lt hbody)

/-! ## Scripts as rows of pieces -/

/-- A literal of a script with the gap in front of it, and with what stands for it. -/
structure Piece (limit : Nat) where
  gap : List Char
  literal : List Char
  text : List Char
  shortens : Shortens limit literal text

section Pieces

variable {limit : Nat}

/-- The piece as the script has it. -/
def Piece.written (piece : Piece limit) : List Char :=
  piece.gap ++ piece.literal

/-- The piece as the shortened script has it. -/
def Piece.shortened (piece : Piece limit) : List Char :=
  piece.gap ++ piece.text

/-- Where the literals of the pieces stand in a script that has the pieces from a place on. -/
def spansFrom (place : Nat) : List (Piece limit) → List Span
  | [] => []
  | piece :: pieces =>
    let start := place + piece.gap.length
    let stop := start + piece.literal.length
    ⟨start, stop⟩ :: spansFrom stop pieces

theorem take_drop_split {i j k : Nat} (hij : i ≤ j) (hjk : j ≤ k) (cs : List Char) :
    (cs.take k).drop i = (cs.take j).drop i ++ (cs.take k).drop j := by
  rw [drop_split hij (cs.take k), List.take_take, Nat.min_eq_left hjk]

/-- Up to the place behind which the literals stand the script is copied. -/
theorem spliceFrom_eq_append {place copied : Nat} {script : List Char} {spans : List Span}
    (h : Proper script place spans) (hle : copied ≤ place) :
    spliceFrom limit script copied spans
      = (script.take place).drop copied ++ spliceFrom limit script place spans := by
  induction h generalizing copied with
  | nil => exact drop_split hle script
  | @cons place span spans hplace hspan hstop hdelimited hspans ih =>
    unfold spliceFrom
    split_ifs with hlong
    · rw [take_drop_split hle hplace, List.append_assoc, List.append_assoc, List.append_assoc]
    · -- a literal that is not long is copied with the gap in front of it, from either place
      rw [ih (show copied ≤ span.stop by omega), ih (show place ≤ span.stop by omega),
        take_drop_split hle (show place ≤ span.stop by omega), List.append_assoc]

/-- With its literals shortened, a script is the gap in front of the first of them, what stands for
that one, and the same for the script behind it. -/
theorem spliceFrom_cons {place : Nat} {script : List Char} {span : Span} {spans : List Span}
    (h : Proper script place (span :: spans)) :
    spliceFrom limit script place (span :: spans)
      = (script.take span.start).drop place ++ shorten limit (span.text script)
        ++ spliceFrom limit script span.stop spans := by
  obtain - | ⟨hplace, hspan, hstop, hdelimited, hspans⟩ := h
  rw [spliceFrom]
  split_ifs with hlong
  · rfl
  · rw [shorten, if_neg hlong, spliceFrom_eq_append hspans (Nat.le_trans hplace hspan), Span.text,
      take_drop_split hplace hspan]

/-- **A row of pieces.** From a place on, a script with proper literals is a row of pieces and what
follows them, and so is the shortened script, with the same gaps. -/
theorem exists_pieces (limit : Nat) {place : Nat} {script : List Char} {spans : List Span}
    (h : Proper script place spans) :
    ∃ (pieces : List (Piece limit)) (rest : List Char),
      script.drop place = pieces.flatMap Piece.written ++ rest ∧
        spliceFrom limit script place spans = pieces.flatMap Piece.shortened ++ rest ∧
        spansFrom place pieces = spans := by
  induction h with
  | nil place => exact ⟨[], script.drop place, rfl, rfl, rfl⟩
  | @cons place span spans hplace hspan hstop hdelimited hspans ih =>
    obtain ⟨pieces, rest, hscript, hspliced, hplaces⟩ := ih
    let piece : Piece limit := {
      gap := (script.take span.start).drop place
      literal := span.text script
      text := shorten limit (span.text script)
      shortens := (shortens_iff hdelimited).mpr rfl }
    refine ⟨piece :: pieces, rest, ?_, ?_, ?_⟩
    · rw [drop_split hplace script, drop_split hspan script, ← Span.text, hscript,
        List.flatMap_cons, Piece.written, List.append_assoc, List.append_assoc]
    · rw [spliceFrom_cons (.cons hplace hspan hstop hdelimited hspans), hspliced,
        List.flatMap_cons, Piece.shortened, List.append_assoc, List.append_assoc,
        List.append_assoc]
    · have hstart : place + piece.gap.length = span.start := by
        simp only [piece, List.length_drop, List.length_take]
        omega
      have hend : span.start + piece.literal.length = span.stop := by
        simp only [piece, Span.text, List.length_drop, List.length_take]
        omega
      simp only [spansFrom, hstart, hend, hplaces]

end Pieces

/-- **Shortening changes the long literals and nothing else.** For every tokenizer that finds proper
literals in a script: the script is a row of gaps and literals, the literals at the places that the
tokenizer gives, and the shortened script is the same row of gaps with what stands for each of the
literals in its place. -/
theorem truncateWith_shortens (tokenize : Tokenizer) {code : String} {limit : Int}
    {spans : List Span} (hlimit : 1 ≤ limit) (hspans : tokenize code.toList = .ok spans)
    (hproper : Proper code.toList 0 spans) :
    ∃ (short : String) (pieces : List (Piece limit.toNat)) (rest : List Char),
      truncateWith tokenize code limit = .ok { code := short } ∧
        code.toList = pieces.flatMap Piece.written ++ rest ∧
        short.toList = pieces.flatMap Piece.shortened ++ rest ∧
        spansFrom 0 pieces = spans := by
  obtain ⟨pieces, rest, hscript, hspliced, hplaces⟩ := exists_pieces limit.toNat hproper
  refine ⟨_, pieces, rest, truncateWith_of_ok hlimit hspans, hscript, ?_, hplaces⟩
  rw [String.toList_ofList, hspliced]

/-- A cut that would leave half an escape, a piece of a template that stays, one that is cut, and
quotes in a pattern and in a comment. -/
theorem truncateWith_shortens_mixed :
    let code := "f('a\\\\b', /'x/, `p$\x7bq\x7drstu`) // 'long'"
    let short := "f('a...[+3 chars]', /'x/, `p$\x7bq\x7drs...[+2 chars]`) // 'long'"
    1 ≤ (2 : Int) ∧ literalSpans code.toList = .ok [⟨2, 8⟩, ⟨16, 20⟩, ⟨21, 27⟩] ∧
      Proper code.toList 0 [⟨2, 8⟩, ⟨16, 20⟩, ⟨21, 27⟩] ∧ truncate code 2 = .ok { code := short } ∧
      ∃ (pieces : List (Piece 2)) (rest : List Char),
        code.toList = pieces.flatMap Piece.written ++ rest ∧
          short.toList = pieces.flatMap Piece.shortened ++ rest ∧
          spansFrom 0 pieces = [⟨2, 8⟩, ⟨16, 20⟩, ⟨21, 27⟩] := by
  intro code short
  have hspans : literalSpans code.toList = .ok [⟨2, 8⟩, ⟨16, 20⟩, ⟨21, 27⟩] :=
    eq_ok_of_toOption (by decide +kernel)
  have hshort : truncate code 2 = .ok { code := short } := eq_ok_of_toOption (by decide +kernel)
  have hproper := literalSpans_proper hspans
  have hlimit : 1 ≤ (2 : Int) := by decide
  obtain ⟨other, pieces, rest, hother, hwritten, hshortened, hplaces⟩ :=
    truncateWith_shortens literalSpans hlimit hspans hproper
  obtain rfl : short = other := congrArg Truncated.code (Except.ok.inj (hshort.symm.trans hother))
  exact ⟨hlimit, hspans, hproper, hshort, pieces, rest, hwritten, hshortened, hplaces⟩

end VmScan.Script
