import VmScan.Proofs.Listing.Written
import VmScan.Proofs.Script.Literals
import VmScan.Proofs.Text.Lined
import VmScan.Source

/-!
# Shortening moves nothing to another line

* `Span.cuts` — whether shortening takes away the character at a place: one that is behind the kept
  part of a long literal, and still in the literal.
* `survivors` — the other characters of a script, each with its line.
* `Span.touches` — whether a literal has a character on a line.

Results:
* `count_spliceFrom`: a script has as many line feeds with its long literals shortened as without.
* `survivorsFrom_spliceFrom_sublist`: the survivors are in the shortened script, in their order and
  on their lines.
* `onLine_spliceFrom`: what stands on a line that no long literal touches is not changed.
* `truncateWith_keeps_lines`: all of this for any tokenizer that finds proper literals, and what
  follows for the listing of the shortened script.
* `count_truncate`, `length_format`: no line is lost with the literals that scanning finds.

Each induction follows `spliceFrom`, from the place up to which the script is copied. A literal that
is not long leaves that place as it is; a long one splits the script behind it into the gap in front
of the literal, the literal, and what follows.
-/

namespace VmScan.Script

open VmScan.Text

/-! ## The parts of a long literal -/

theorem drop_split {i j : Nat} (h : i ≤ j) (cs : List Char) :
    cs.drop i = (cs.take j).drop i ++ cs.drop j := by
  have hj : cs.drop j = (cs.drop i).drop (j - i) := by
    rw [List.drop_drop, Nat.add_sub_cancel' h]
  rw [List.drop_take, hj, List.take_append_drop]

theorem count_take_add {i j : Nat} (h : i ≤ j) (cs : List Char) :
    (cs.take i).count '\n' + ((cs.take j).drop i).count '\n' = (cs.take j).count '\n' := by
  conv_rhs => rw [← List.take_append_drop i (cs.take j), List.count_append, List.take_take,
    Nat.min_eq_left h]

/-- The part of a literal in front of the cut: the opening and the kept part of the body. -/
def keptOf (limit : Nat) (literal : List Char) : List Char :=
  literal.take 1 ++ (bodyOf literal).take (keptLength limit (bodyOf literal))

/-- The part of the body behind the cut. -/
def removedOf (limit : Nat) (literal : List Char) : List Char :=
  (bodyOf literal).drop (keptLength limit (bodyOf literal))

theorem keptLength_le (limit : Nat) (body : List Char) : keptLength limit body ≤ limit := by
  unfold keptLength
  split_ifs <;> omega

theorem length_of_isLong {limit : Nat} {literal : List Char} (h : isLong limit literal = true) :
    limit + closingLength literal + 1 < literal.length := by
  rw [isLong, decide_eq_true_eq, bodyOf, List.length_take, List.length_drop] at h
  omega

theorem isLong_literal_eq {limit : Nat} {literal : List Char} (h : isLong limit literal = true) :
    literal = keptOf limit literal ++ (removedOf limit literal ++ closingOf literal) := by
  have hlength := length_of_isLong h
  have hfirst : literal = literal.take 1 ++ literal.drop 1 := (List.take_append_drop 1 _).symm
  have hrest : literal.drop 1 = bodyOf literal ++ closingOf literal := by
    rw [drop_split (show 1 ≤ literal.length - closingLength literal by omega), List.drop_take]
    rfl
  calc literal = literal.take 1 ++ (bodyOf literal ++ closingOf literal) := by
        rw [← hrest, ← hfirst]
    _ = keptOf limit literal ++ (removedOf limit literal ++ closingOf literal) := by
        rw [keptOf, removedOf, List.append_assoc,
          ← List.append_assoc (List.take _ (bodyOf literal)), List.take_append_drop]

theorem length_keptOf {limit : Nat} {literal : List Char} (h : isLong limit literal = true) :
    (keptOf limit literal).length = 1 + keptLength limit (bodyOf literal) := by
  have hlength := length_of_isLong h
  have hkept := keptLength_le limit (bodyOf literal)
  rw [isLong, decide_eq_true_eq] at h
  rw [keptOf, List.length_append, List.length_take, List.length_take]
  omega

theorem shorten_of_isLong {limit : Nat} {literal : List Char} (h : isLong limit literal = true) :
    shorten limit literal = keptOf limit literal ++ (cutMark (removedOf limit literal).length
      ++ closingOf literal ++ List.replicate ((removedOf limit literal).count '\n') '\n') := by
  simp only [shorten, if_pos h, keptOf, removedOf, List.append_assoc]

theorem count_cutMark (count : Nat) : (cutMark count).count '\n' = 0 := by
  have hdigits : '\n' ∉ (toString count).toList := Number.lf_not_mem_toString count
  refine List.count_eq_zero.mpr ?_
  simp only [cutMark, String.toList_append, List.mem_append, not_or]
  exact ⟨⟨by decide, hdigits⟩, by decide⟩

/-- The line feeds that are cut away are put back. -/
theorem count_shorten (limit : Nat) (literal : List Char) :
    (shorten limit literal).count '\n' = literal.count '\n' := by
  by_cases h : isLong limit literal = true
  · conv_rhs => rw [isLong_literal_eq h]
    rw [shorten_of_isLong h]
    simp only [List.count_append, count_cutMark, List.count_replicate_self]
    omega
  · rw [shorten, if_neg h]

/-- A script has as many line feeds with its long literals shortened as without. -/
theorem count_spliceFrom {limit place copied : Nat} {script : List Char} {spans : List Span}
    (h : Proper script place spans) (hle : copied ≤ place) :
    (spliceFrom limit script copied spans).count '\n' = (script.drop copied).count '\n' := by
  induction h generalizing copied with
  | nil => rfl
  | @cons place span spans hplace hspan hstop hdelimited hspans ih =>
    unfold spliceFrom
    split_ifs with hlong
    · rw [drop_split (Nat.le_trans hle hplace) script, drop_split hspan script, ← Span.text]
      simp only [List.count_append, count_shorten, ih (Nat.le_refl _), Nat.add_assoc]
    · exact ih (by omega)

/-! ## What survives -/

/-- Whether shortening takes away the character at the position: one behind the kept part of the
literal, if that is long. -/
def Span.cuts (limit : Nat) (script : List Char) (span : Span) (position : Nat) : Bool :=
  isLong limit (span.text script)
    && (span.start + 1 + keptLength limit (bodyOf (span.text script)) ≤ position)
    && (position < span.stop)

/-- Those characters that no literal cuts away, for a part of a script at the given place. -/
def survivorsFrom (limit : Nat) (script : List Char) (spans : List Span) (place : Nat)
    (part : List (Char × Nat)) : List (Char × Nat) :=
  ((part.zipIdx place).filter fun c => !spans.any (·.cuts limit script c.2)).map (·.1)

/-- The characters of a script that no literal cuts away, each with its line. -/
def survivors (limit : Nat) (script : List Char) (spans : List Span) : List (Char × Nat) :=
  survivorsFrom limit script spans 0 (lined 0 script)

section Survivors

variable (limit : Nat) (script : List Char)

theorem survivorsFrom_append (spans : List Span) (place : Nat) (a b : List (Char × Nat)) :
    survivorsFrom limit script spans place (a ++ b)
      = survivorsFrom limit script spans place a
        ++ survivorsFrom limit script spans (place + a.length) b := by
  simp only [survivorsFrom, List.zipIdx_append, List.filter_append, List.map_append]

theorem survivorsFrom_sublist (spans : List Span) (place : Nat) (part : List (Char × Nat)) :
    (survivorsFrom limit script spans place part).Sublist part := by
  have hfilter := (List.filter_sublist (p := fun c => !spans.any (·.cuts limit script c.2))
    (l := part.zipIdx place)).map (·.1)
  rwa [List.zipIdx_map_fst] at hfilter

/-- With one literal more, fewer characters survive. -/
theorem survivorsFrom_cons_sublist (span : Span) (spans : List Span) (place : Nat)
    (part : List (Char × Nat)) :
    (survivorsFrom limit script (span :: spans) place part).Sublist
      (survivorsFrom limit script spans place part) := by
  refine (List.monotone_filter_right _ fun c hc => ?_).map _
  rw [List.any_cons, Bool.not_or, Bool.and_eq_true] at hc
  exact hc.2

/-- A literal that is not long takes nothing away. -/
theorem survivorsFrom_cons_of_not_isLong {span : Span}
    (h : ¬ isLong limit (span.text script) = true) (spans : List Span) (place : Nat)
    (part : List (Char × Nat)) :
    survivorsFrom limit script (span :: spans) place part
      = survivorsFrom limit script spans place part := by
  have hcuts : ∀ position, span.cuts limit script position = false := by
    intro position
    rw [Span.cuts, Bool.eq_false_iff.mpr h, Bool.false_and, Bool.false_and]
  simp only [survivorsFrom, List.any_cons, hcuts, Bool.false_or]

/-- Nothing survives behind the kept part of a long literal. -/
theorem survivorsFrom_cons_eq_nil {span : Span} (h : isLong limit (span.text script) = true)
    (spans : List Span) {place : Nat} {part : List (Char × Nat)}
    (hplace : span.start + 1 + keptLength limit (bodyOf (span.text script)) ≤ place)
    (hpart : place + part.length ≤ span.stop) :
    survivorsFrom limit script (span :: spans) place part = [] := by
  refine List.map_eq_nil_iff.mpr (List.filter_eq_nil_iff.mpr fun c hc => ?_)
  obtain ⟨hle, hlt⟩ := List.mem_zipIdx hc
  have hcuts : span.cuts limit script c.2 = true := by
    rw [Span.cuts, h, Bool.true_and, Bool.and_eq_true, decide_eq_true_eq, decide_eq_true_eq]
    omega
  rw [List.any_cons, hcuts, Bool.true_or]
  decide

/-- Of a long literal the opening and the kept part of the body survive, and stay. -/
theorem survivorsFrom_literal_sublist {span : Span} (h : isLong limit (span.text script) = true)
    (hstop : span.start + (span.text script).length = span.stop) (spans : List Span) (line : Nat) :
    (survivorsFrom limit script (span :: spans) span.start (lined line (span.text script))).Sublist
      (lined line (shorten limit (span.text script))) := by
  have hlength := congrArg List.length (isLong_literal_eq h)
  rw [List.length_append] at hlength
  have hsplit : lined line (span.text script) = lined line (keptOf limit (span.text script))
      ++ lined (line + (keptOf limit (span.text script)).count '\n')
        (removedOf limit (span.text script) ++ closingOf (span.text script)) := by
    rw [← lined_append, ← isLong_literal_eq h]
  have hnil : survivorsFrom limit script (span :: spans)
      (span.start + (keptOf limit (span.text script)).length)
      (lined (line + (keptOf limit (span.text script)).count '\n')
        (removedOf limit (span.text script) ++ closingOf (span.text script))) = [] :=
    survivorsFrom_cons_eq_nil limit script h spans (by rw [length_keptOf h]; omega)
      (by rw [length_lined]; omega)
  rw [hsplit, shorten_of_isLong h, survivorsFrom_append, length_lined, hnil, List.append_nil,
    lined_append line]
  exact (survivorsFrom_sublist limit script _ _ _).trans (List.sublist_append_left _ _)

/-- The survivors behind a place are in the shortened script, in their order and on their lines. -/
theorem survivorsFrom_spliceFrom_sublist {place copied : Nat} {spans : List Span}
    (h : Proper script place spans) (hle : copied ≤ place) (line : Nat) :
    (survivorsFrom limit script spans copied (lined line (script.drop copied))).Sublist
      (lined line (spliceFrom limit script copied spans)) := by
  induction h generalizing copied line with
  | nil => exact survivorsFrom_sublist limit script _ _ _
  | @cons place span spans hplace hspan hstop hdelimited hspans ih =>
    unfold spliceFrom
    split_ifs with hlong
    · have hcopied : copied ≤ span.start := Nat.le_trans hle hplace
      have hgap : copied + ((script.take span.start).drop copied).length = span.start := by
        rw [List.length_drop, List.length_take]
        omega
      have htext : span.start + (span.text script).length = span.stop := by
        rw [Span.text, List.length_drop, List.length_take]
        omega
      rw [drop_split hcopied script, drop_split hspan script, ← Span.text, List.append_assoc]
      simp only [lined_append, survivorsFrom_append, length_lined, hgap, htext, count_shorten]
      -- the gap is copied, of the literal the kept part stays, the rest is the induction
      exact (survivorsFrom_sublist limit script _ _ _).append
        ((survivorsFrom_literal_sublist limit script hlong htext spans _).append
          ((survivorsFrom_cons_sublist limit script span spans _ _).trans (ih (Nat.le_refl _) _)))
    · rw [survivorsFrom_cons_of_not_isLong limit script hlong]
      exact ih (by omega) line

end Survivors

/-! ## Lines that no long literal touches -/

/-- Whether a character of the literal stands on the line. -/
def Span.touches (script : List Char) (span : Span) (line : Nat) : Prop :=
  ∃ c ∈ ((lined 0 script).take span.stop).drop span.start, c.2 = line

instance (script : List Char) (span : Span) (line : Nat) : Decidable (span.touches script line) :=
  inferInstanceAs (Decidable (∃ c ∈ ((lined 0 script).take span.stop).drop span.start, c.2 = line))

theorem take_drop_lined {script : List Char} {span : Span} (h : span.start ≤ span.stop) :
    ((lined 0 script).take span.stop).drop span.start
      = lined ((script.take span.start).count '\n') (span.text script) := by
  rw [take_lined, drop_lined, Nat.zero_add, List.take_take, Nat.min_eq_left h, Span.text]

/-- A line that a literal does not touch is in front of it or behind it. -/
theorem line_outside {script : List Char} {span : Span} {line : Nat}
    (hspan : span.start ≤ span.stop) (hdelimited : Delimited (span.text script))
    (h : ¬ span.touches script line) :
    line < (script.take span.start).count '\n' ∨
      (script.take span.start).count '\n' + (span.text script).count '\n' < line := by
  rw [Span.touches, take_drop_lined hspan] at h
  by_contra hinside
  exact h (exists_mem_lined _ hdelimited.ne_nil hdelimited.getLast?_ne_lf (by omega) (by omega))

/-- What stands on a line that no long literal touches is not changed. -/
theorem onLine_spliceFrom {limit place copied line : Nat} {script : List Char} {spans : List Span}
    (h : Proper script place spans) (hle : copied ≤ place)
    (huntouched : ∀ span ∈ spans, isLong limit (span.text script) = true →
      ¬ span.touches script line) :
    onLine line (lined ((script.take copied).count '\n') (spliceFrom limit script copied spans))
      = onLine line (lined ((script.take copied).count '\n') (script.drop copied)) := by
  induction h generalizing copied with
  | nil => rfl
  | @cons place span spans hplace hspan hstop hdelimited hspans ih =>
    have hrest : ∀ other ∈ spans, isLong limit (other.text script) = true →
        ¬ other.touches script line := fun other ho => huntouched other (List.mem_cons_of_mem _ ho)
    unfold spliceFrom
    split_ifs with hlong
    · have hcopied : copied ≤ span.start := Nat.le_trans hle hplace
      have hout := line_outside hspan hdelimited (huntouched span List.mem_cons_self hlong)
      -- shortened or not, the literal has its lines between the same two, and leaves this one free
      have hliteral : ∀ cs, cs.count '\n' = (span.text script).count '\n' →
          onLine line (lined ((script.take span.start).count '\n') cs) = [] := by
        intro cs hcs
        rcases hout with hbefore | hbehind
        · exact onLine_eq_nil_of_lt hbefore
        · exact onLine_eq_nil_of_gt (by rwa [hcs])
      rw [drop_split hcopied script, drop_split hspan script, ← Span.text, List.append_assoc]
      simp only [lined_append, onLine_append, count_take_add hcopied, hliteral _ rfl,
        hliteral _ (count_shorten _ _), count_shorten]
      rw [Span.text, count_take_add hspan, ih (Nat.le_refl _) hrest]
    · exact ih (by omega) hrest

/-! ## Shortened scripts and their listings -/

theorem truncateWith_of_ok {tokenize : Tokenizer} {code : String} {limit : Int} {spans : List Span}
    (hlimit : 1 ≤ limit) (hspans : tokenize code.toList = .ok spans) :
    truncateWith tokenize code limit
      = .ok { code := String.ofList (spliceFrom limit.toNat code.toList 0 spans) } := by
  rw [truncateWith, if_neg (by omega), hspans]

/-- The text of a line that no long literal touches is not changed. -/
theorem getElem?_lines_spliceFrom {limit : Nat} {code : String} {spans : List Span}
    (h : Proper code.toList 0 spans) {line : Nat}
    (huntouched : ∀ span ∈ spans, isLong limit (span.text code.toList) = true →
      ¬ span.touches code.toList line) :
    (lines (String.ofList (spliceFrom limit code.toList 0 spans)))[line]?
      = (lines code)[line]? := by
  refine getElem?_lines_congr ?_ ?_
  · rw [String.toList_ofList, count_spliceFrom h (Nat.le_refl 0), List.drop_zero]
  · rw [String.toList_ofList]
    exact onLine_spliceFrom h (Nat.le_refl 0) huntouched

/-- **Shortening moves nothing to another line.** For every tokenizer that finds proper literals in
a script: the shortened script has as many line feeds; the survivors are in it, in their order and
on their lines; and a listing of it has as many lines as the script, each with its number and with
the place that the source map gives for it, and with its text unless a long literal touches it. -/
theorem truncateWith_keeps_lines (tokenize : Tokenizer) {code : String} {limit : Int}
    {spans : List Span} (hlimit : 1 ≤ limit) (hspans : tokenize code.toList = .ok spans)
    (hproper : Proper code.toList 0 spans) :
    ∃ short : String, truncateWith tokenize code limit = .ok { code := short } ∧
      short.toList.count '\n' = code.toList.count '\n' ∧
      (survivors limit.toNat code.toList spans).Sublist (lined 0 short.toList) ∧
      ∀ map : Option SourceMap.Mapping, ∃ listed : List Line,
        Source.formatWith { code, map } tokenize limit = .ok (listed, []) ∧
        (∀ runtime preparation path entry beside warnings,
          Source.read runtime preparation path entry beside = .ok ({ code, map }, warnings) →
          Source.formatFileWith runtime tokenize preparation limit path entry beside
            = (.ok listed, warnings)) ∧
        listed.length = (lines code).length ∧
        ∀ (i : Nat) (line : Line), listed[i]? = some line →
          line.number = i + 1 ∧
          line.sourceLine = (map.bind (·.originAt (i + 1) 0)).map (·.line + 1) ∧
          line.sourceColumn = (map.bind (·.originAt (i + 1) 0)).map (·.column) ∧
          ((∀ span ∈ spans, isLong limit.toNat (span.text code.toList) = true →
            ¬ span.touches code.toList i) → (lines code)[i]? = some line.code) := by
  have hshort := truncateWith_of_ok hlimit hspans
  have hcount : (spliceFrom limit.toNat code.toList 0 spans).count '\n' = code.toList.count '\n' :=
    count_spliceFrom hproper (Nat.le_refl 0)
  refine ⟨_, hshort, by rw [String.toList_ofList, hcount], ?_, fun map => ?_⟩
  · rw [String.toList_ofList]
    exact survivorsFrom_spliceFrom_sublist _ _ hproper (Nat.le_refl 0) 0
  · have hformat : Source.formatWith { code, map } tokenize limit = .ok (Listing.listing
        (String.ofList (spliceFrom limit.toNat code.toList 0 spans)) map, []) := by
      simp only [Source.formatWith, hshort, Option.toList_none]
    refine ⟨_, hformat, ?_, ?_, ?_⟩
    · intro runtime preparation path entry beside warnings hread
      simp only [Source.formatFileWith, Source.formatReadWith, hread, hformat, List.append_nil]
    · rw [Listing.length_listing, length_lines, length_lines, String.toList_ofList, hcount]
    · intro i line hline
      rw [Listing.getElem?_listing, Option.map_eq_some_iff] at hline
      obtain ⟨text, htext, rfl⟩ := hline
      refine ⟨rfl, rfl, rfl, fun huntouched => ?_⟩
      rw [← getElem?_lines_spliceFrom hproper huntouched, htext]
      rfl

theorem eq_ok_of_toOption {e a : Type} {result : Except e a} {value : a}
    (h : result.toOption = some value) : result = .ok value := by
  cases result with
  | error error => cases h
  | ok other => exact congrArg _ (Option.some.inj h)

/-- A template cut in front of an escaped line feed, and a string cut on the line it ends on. -/
theorem truncateWith_keeps_lines_of_two :
    let code := "a(`p\\\nq\nrs`, 'tuvw');\nb"
    1 ≤ (2 : Int) ∧ literalSpans code.toList = .ok [⟨2, 11⟩, ⟨13, 19⟩] ∧
      Proper code.toList 0 [⟨2, 11⟩, ⟨13, 19⟩] ∧
      ∃ listed : List Line, Source.format { code } 2 = .ok (listed, []) ∧ listed.length = 4 ∧
        ∀ line, listed[3]? = some line → line.number = 4 ∧ line.code = "b" := by
  intro code
  have hspans : literalSpans code.toList = .ok [⟨2, 11⟩, ⟨13, 19⟩] :=
    eq_ok_of_toOption (by decide +kernel)
  have hproper := literalSpans_proper hspans
  have hlimit : 1 ≤ (2 : Int) := by decide
  obtain ⟨short, -, -, -, hlisted⟩ := truncateWith_keeps_lines literalSpans hlimit hspans hproper
  obtain ⟨listed, hformat, -, hlength, hlines⟩ := hlisted none
  have hrows : lines code = ["a(`p\\", "q", "rs`, 'tuvw');", "b"] := by decide +kernel
  refine ⟨hlimit, hspans, hproper, listed, hformat, hlength.trans (by rw [hrows]; rfl), ?_⟩
  intro line hline
  obtain ⟨hnumber, -, -, hcode⟩ := hlines 3 line hline
  have huntouched : ∀ span ∈ [(⟨2, 11⟩ : Span), ⟨13, 19⟩], ¬ span.touches code.toList 3 := by
    decide +kernel
  have htext := hcode fun span hspan _ => huntouched span hspan
  rw [hrows] at htext
  exact ⟨hnumber, (Option.some.inj htext).symm⟩

/-- A script has as many line feeds shortened as it has, also where it cannot be scanned. -/
theorem count_truncate {code : String} {limit : Int} {result : Truncated}
    (h : truncate code limit = .ok result) :
    result.code.toList.count '\n' = code.toList.count '\n' := by
  unfold truncate truncateWith at h
  split_ifs at h with hlimit
  cases hspans : literalSpans code.toList with
  | ok spans =>
    rw [hspans] at h
    obtain rfl := Except.ok.inj h
    rw [String.toList_ofList]
    exact count_spliceFrom (literalSpans_proper hspans) (Nat.le_refl 0)
  | error failure =>
    rw [hspans] at h
    cases failure with
    | noSuchToken => cases h
    | fault cause line =>
      obtain rfl := Except.ok.inj h
      rfl

/-- The listing of a script has as many lines as the script. -/
theorem length_format {source : Source} {limit : Int} {listed : List Line}
    {warnings : List String} (h : source.format limit = .ok (listed, warnings)) :
    listed.length = (lines source.code).length := by
  unfold Source.format Source.formatWith at h
  cases hshort : truncateWith literalSpans source.code limit with
  | error fault => rw [hshort] at h; cases h
  | ok result =>
    rw [hshort] at h
    cases h
    rw [Listing.length_listing, length_lines, length_lines, count_truncate hshort]

end VmScan.Script
