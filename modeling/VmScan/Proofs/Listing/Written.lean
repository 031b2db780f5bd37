import Mathlib.Data.List.Basic
import VmScan.Listing
import VmScan.Proofs.Text.Lines

/-!
# Written lines

What the written form of a line of a listing gives back: its number, and that it is one line. A
line has none where an integer that it shows has too many digits.

* `Line.written` — the written form, whatever the number of digits.
* `Line.Writable` — the integers that the line shows have at most `maxDigits` digits.

Results:
* `digitsValue_toDigits`: the decimal digits of a number write it.
* `render_eq_ok_iff`, `mapM_render_eq_ok_iff`: a line that is writable is rendered in its written
  form, and so are the lines of a listing; no other line is rendered.
* `lineNumber_written`: the number read from a written line is the number of the line, for numbers
  of at most `maxDigits` digits, also where the number is wider than its column.
* `lf_not_mem_written`: a written line holds no line feed if its code holds none.
* `getElem?_listing`: the lines of a listing are those of its text, numbered from one.
-/

namespace VmScan

/-! ## Digits -/

namespace Text

theorem decimalValue?_of_isDigit {c : Char} (h : c.isDigit = true) :
    decimalValue? c = some (c.toNat - '0'.toNat) := by
  have hc : 48 ≤ c.toNat ∧ c.toNat ≤ 57 := Char.isDigit_iff_toNat.mp h
  have hfirst : (decide (48 ≤ c.toNat) && decide (c.toNat < 48 + 10)) = true := by
    rw [Bool.and_eq_true, decide_eq_true_eq, decide_eq_true_eq]
    omega
  have hfind : (48 :: decimalZeros.tail).find? (fun first =>
      decide (first ≤ c.toNat) && decide (c.toNat < first + 10)) = some 48 :=
    List.find?_cons_of_pos hfirst
  have hzeros : decimalZeros = 48 :: decimalZeros.tail := rfl
  rw [decimalValue?, hzeros, hfind]
  rfl

theorem isDecimalDigit_of_isDigit {c : Char} (h : c.isDigit = true) : isDecimalDigit c = true := by
  rw [isDecimalDigit, decimalValue?_of_isDigit h]
  rfl

theorem isBlank_of_isDigit {c : Char} (h : c.isDigit = true) : isBlank c = false := by
  have hc : 48 ≤ c.toNat ∧ c.toNat ≤ 57 := Char.isDigit_iff_toNat.mp h
  simp only [isBlank, Bool.or_eq_false_iff, Bool.and_eq_false_iff, decide_eq_false_iff_not,
    beq_eq_false_iff_ne]
  omega

end Text

namespace Number

/-- The decimal digits of a number write it. -/
theorem digitsValue_toDigits (n : Nat) : digitsValue (Nat.toDigits 10 n) = n := by
  have hfold : digitsValue (Nat.toDigits 10 n) = Nat.ofDigitChars 10 (Nat.toDigits 10 n) 0 := by
    rw [Nat.ofDigitChars_eq_foldl]
    refine List.foldl_ext _ _ 0 fun value c hc => ?_
    rw [Text.decimalValue?_of_isDigit (Nat.isDigit_of_mem_toDigits (by decide) (by decide) hc)]
    rfl
  rw [hfold, Nat.ofDigitChars_ten_toDigits]

/-- An integer is written with decimal digits, perhaps behind a sign. -/
theorem eq_minus_or_isDigit_of_mem {n : Int} {c : Char} (h : c ∈ (toString n).toList) :
    c = '-' ∨ c.isDigit = true := by
  have hdigits : ∀ {k : Nat}, c ∈ k.repr.toList → c.isDigit = true := fun hk => by
    rw [Nat.toList_repr] at hk
    exact Nat.isDigit_of_mem_toDigits (by decide) (by decide) hk
  rw [Int.toString_eq_repr, Int.repr_eq_if] at h
  split_ifs at h
  · exact Or.inr (hdigits h)
  · rw [String.toList_append, List.mem_append] at h
    rcases h with hsign | hdigit
    · exact Or.inl (List.mem_singleton.mp hsign)
    · exact Or.inr (hdigits hdigit)

theorem lf_not_mem_toString (n : Int) : '\n' ∉ (toString n).toList := fun h => by
  rcases eq_minus_or_isDigit_of_mem h with hsign | hdigit
  · exact absurd hsign (by decide)
  · exact absurd hdigit (by decide)

end Number

namespace Number

theorem toText_of_writable {n : Int} (h : Writable n) : toText n = .ok (toString n) :=
  if_pos h

theorem toText_of_not_writable {n : Int} (h : ¬ Writable n) : toText n = .error .tooManyDigits :=
  if_neg h

/-- A natural number is written with its decimal digits alone. -/
theorem toList_toString_natCast (n : Nat) : (toString (n : Int)).toList = Nat.toDigits 10 n := by
  rw [Int.toString_eq_repr, Int.repr_eq_if, if_pos (Int.natCast_nonneg n), Int.toNat_natCast,
    Nat.toList_repr]

theorem writable_natCast_iff (n : Nat) : Writable n ↔ n < Nat.pow 10 maxDigits := by
  rw [Writable, Int.natAbs_natCast]

/-- The digits of a natural number can be counted on its text. -/
theorem writable_iff_length {n : Int} (hn : 0 ≤ n) :
    Writable n ↔ (toString n).length ≤ maxDigits := by
  obtain ⟨n, rfl⟩ := Int.eq_ofNat_of_zero_le hn
  rw [writable_natCast_iff, Nat.pow_eq, ← String.length_toList, toList_toString_natCast,
    Nat.length_toDigits_le_iff (by decide) (by decide)]

end Number

/-! ## Lines that are written -/

namespace Listing

/-- The text of a place, whatever the number of its digits. -/
def placeForm (line column : Option Int) : String :=
  match line, column with
  | some line, some column => s!"L{line}:{column}"
  | _, _ => ""

end Listing

open Listing in
/-- The written form of a line, whatever the number of its digits. -/
def Line.written (line : Line) : String :=
  padLeft 5 (toString line.number) ++ " "
    ++ padRight 10 (placeForm line.sourceLine line.sourceColumn) ++ " " ++ line.code

/-- Where both coordinates of the line are known, they have texts. -/
def Line.PlaceWritable (line : Line) : Prop :=
  ∀ sourceLine ∈ line.sourceLine, ∀ sourceColumn ∈ line.sourceColumn,
    Number.Writable sourceLine ∧ Number.Writable sourceColumn

/-- The integers that the line shows have texts. -/
structure Line.Writable (line : Line) : Prop where
  number : Number.Writable line.number
  place : line.PlaceWritable

namespace Listing

/-- The text of a place, if its coordinates have texts where both are known. -/
theorem placeText_of_writable {line : Line} (h : line.PlaceWritable) :
    placeText line.sourceLine line.sourceColumn
      = .ok (placeForm line.sourceLine line.sourceColumn) := by
  unfold Line.PlaceWritable at h
  generalize line.sourceLine = sourceLine at *
  generalize line.sourceColumn = sourceColumn at *
  cases sourceLine with
  | none => rfl
  | some x =>
    cases sourceColumn with
    | none => rfl
    | some y =>
      obtain ⟨hx, hy⟩ := h x rfl y rfl
      simp only [placeText, Number.toText_of_writable hx, Number.toText_of_writable hy]
      rfl

/-- There is no text of a place with a coordinate that has none. -/
theorem placeText_of_not_writable {line : Line} (h : ¬ line.PlaceWritable) :
    placeText line.sourceLine line.sourceColumn = .error .tooManyDigits := by
  unfold Line.PlaceWritable at h
  generalize line.sourceLine = sourceLine at *
  generalize line.sourceColumn = sourceColumn at *
  cases sourceLine with
  | none => exact absurd (fun x hx => by cases hx) h
  | some x =>
    cases sourceColumn with
    | none => exact absurd (fun _ _ y hy => by cases hy) h
    | some y =>
      by_cases hx : Number.Writable x
      · have hy : ¬ Number.Writable y := by
          intro hy
          refine h fun x' hx' y' hy' => ?_
          cases hx'
          cases hy'
          exact ⟨hx, hy⟩
        simp only [placeText, Number.toText_of_writable hx, Number.toText_of_not_writable hy]
        rfl
      · simp only [placeText, Number.toText_of_not_writable hx]
        rfl

/-- A line whose integers have texts is rendered in its written form. -/
theorem render_of_writable {line : Line} (h : line.Writable) : line.render = .ok line.written := by
  simp only [Line.render, placeText_of_writable h.place, Number.toText_of_writable h.number]
  rfl

/-- A line with an integer that has no text is not rendered. -/
theorem render_of_not_writable {line : Line} (h : ¬ line.Writable) :
    line.render = .error .tooManyDigits := by
  by_cases hplace : line.PlaceWritable
  · have hnumber : ¬ Number.Writable line.number := fun hnumber => h ⟨hnumber, hplace⟩
    simp only [Line.render, placeText_of_writable hplace, Number.toText_of_not_writable hnumber]
    rfl
  · simp only [Line.render, placeText_of_not_writable hplace]
    rfl

/-- **Lines are rendered in their written form**, if they are rendered. -/
theorem render_eq_ok_iff {line : Line} {text : String} :
    line.render = .ok text ↔ line.Writable ∧ text = line.written := by
  constructor
  · intro h
    have hwritable : line.Writable := by
      by_contra hnot
      rw [render_of_not_writable hnot] at h
      cases h
    rw [render_of_writable hwritable] at h
    exact ⟨hwritable, (Except.ok.inj h).symm⟩
  · rintro ⟨hwritable, rfl⟩
    exact render_of_writable hwritable

/-- Lines are rendered together if each of them is writable. -/
theorem mapM_render_of_writable {lines : List Line} (h : ∀ line ∈ lines, line.Writable) :
    lines.mapM (·.render) = .ok (lines.map (·.written)) := by
  induction lines with
  | nil => rfl
  | cons line lines ih =>
    rw [List.forall_mem_cons] at h
    rw [List.mapM_cons, render_of_writable h.1, ih h.2]
    rfl

/-- One line that is not writable keeps all from being rendered. -/
theorem mapM_render_of_not_writable {lines : List Line} (h : ¬ ∀ line ∈ lines, line.Writable) :
    lines.mapM (·.render) = .error .tooManyDigits := by
  induction lines with
  | nil => exact absurd (List.forall_mem_nil _) h
  | cons line lines ih =>
    rw [List.mapM_cons]
    by_cases hline : line.Writable
    · have hrest : ¬ ∀ other ∈ lines, other.Writable := fun hrest =>
        h (List.forall_mem_cons.mpr ⟨hline, hrest⟩)
      rw [render_of_writable hline, ih hrest]
      rfl
    · rw [render_of_not_writable hline]
      rfl

theorem mapM_render_eq_ok_iff {lines : List Line} {texts : List String} :
    lines.mapM (·.render) = .ok texts ↔
      (∀ line ∈ lines, line.Writable) ∧ texts = lines.map (·.written) := by
  by_cases h : ∀ line ∈ lines, line.Writable
  · rw [mapM_render_of_writable h, Except.ok.injEq]
    exact ⟨fun htexts => ⟨h, htexts.symm⟩, fun htexts => htexts.2.symm⟩
  · rw [mapM_render_of_not_writable h]
    constructor
    · rintro ⟨⟩
    · rintro ⟨hwritable, -⟩
      exact absurd hwritable h

/-! ## One written line -/

theorem toList_padLeft (width : Nat) (text : String) :
    (padLeft width text).toList = List.replicate (width - text.length) ' ' ++ text.toList := by
  rw [padLeft, String.toList_append, String.toList_ofList]

theorem toList_padRight (width : Nat) (text : String) :
    (padRight width text).toList = text.toList ++ List.replicate (width - text.length) ' ' := by
  rw [padRight, String.toList_append, String.toList_ofList]

theorem lf_not_mem_blanks (n : Nat) : '\n' ∉ List.replicate n ' ' := fun h =>
  absurd (List.eq_of_mem_replicate h) (by decide)

theorem lf_not_mem_placeForm (line column : Option Int) :
    '\n' ∉ (placeForm line column).toList := by
  cases line <;> cases column
  case some.some line column =>
    simp only [placeForm, String.toList_append, List.mem_append, not_or]
    exact ⟨⟨⟨by decide, Number.lf_not_mem_toString line⟩, by decide⟩,
      Number.lf_not_mem_toString column⟩
  all_goals exact List.not_mem_nil

/-- A written line: blanks, the number, and the rest behind a blank. -/
theorem toList_written (line : Line) :
    line.written.toList = List.replicate (5 - (toString line.number).length) ' '
      ++ ((toString line.number).toList
        ++ ' ' :: ((padRight 10 (placeForm line.sourceLine line.sourceColumn)).toList
          ++ ' ' :: line.code.toList)) := by
  have hblank : " ".toList = [' '] := rfl
  simp only [Line.written, String.toList_append, toList_padLeft, hblank, List.append_assoc,
    List.cons_append, List.nil_append]

theorem written_ne_empty (line : Line) : line.written ≠ "" := by
  intro h
  have hempty : line.written.toList = [] := by rw [h]; rfl
  rw [toList_written] at hempty
  exact absurd (List.append_eq_nil_iff.mp (List.append_eq_nil_iff.mp hempty).2).2
    (List.cons_ne_nil _ _)

/-- A written line holds no line feed if its code holds none. -/
theorem lf_not_mem_written {line : Line} (h : '\n' ∉ line.code.toList) :
    '\n' ∉ line.written.toList := by
  rw [toList_written, toList_padRight]
  simp only [List.mem_append, List.mem_cons, not_or]
  exact ⟨lf_not_mem_blanks _, Number.lf_not_mem_toString _, by decide,
    ⟨lf_not_mem_placeForm _ _, lf_not_mem_blanks _⟩, by decide, h⟩

/-- The text of a number, behind any blanks and before another, is read as the number. -/
theorem lineNumber_of_toList {written : String} {blanks n : Nat} {rest : List Char}
    (h : written.toList = List.replicate blanks ' ' ++ (Nat.toDigits 10 n ++ ' ' :: rest))
    (hn : (Nat.toDigits 10 n).length ≤ Number.maxDigits) : lineNumber written = .ok n := by
  have hdigit : ∀ c ∈ Nat.toDigits 10 n, c.isDigit = true := fun c hc =>
    Nat.isDigit_of_mem_toDigits (by decide) (by decide) hc
  obtain ⟨first, digits, hcons⟩ :=
    List.exists_cons_of_ne_nil (Nat.toDigits_ne_nil (n := n) (b := 10))
  have hfirst : Text.isBlank first = false :=
    Text.isBlank_of_isDigit (hdigit first (hcons ▸ List.mem_cons_self))
  have hdrop : written.toList.dropWhile Text.isBlank = Nat.toDigits 10 n ++ ' ' :: rest := by
    rw [h, List.dropWhile_append_of_pos fun c hc => by
      rw [List.eq_of_mem_replicate hc]; rfl]
    rw [hcons, List.cons_append, List.dropWhile_cons_of_neg (by simp [hfirst])]
  have htake : (Nat.toDigits 10 n ++ ' ' :: rest).takeWhile Text.isDecimalDigit
      = Nat.toDigits 10 n := by
    rw [List.takeWhile_append_of_pos fun c hc => Text.isDecimalDigit_of_isDigit (hdigit c hc),
      List.takeWhile_cons_of_neg (by decide), List.append_nil]
  have hvalue : Number.ofDigits (Nat.toDigits 10 n) = .ok n := by
    rw [Number.ofDigits, if_neg (by omega), Number.digitsValue_toDigits]
  unfold lineNumber
  rw [hdrop, htake]
  rw [hcons] at hvalue ⊢
  simp only [hvalue]

/-- The number read from a written line is the number of the line. -/
theorem lineNumber_written {line : Line} {n : Nat} (hline : line.number = n)
    (hn : (toString line.number).length ≤ Number.maxDigits) : lineNumber line.written = .ok n := by
  have hdigits : (toString line.number).toList = Nat.toDigits 10 n := by
    rw [hline, Number.toList_toString_natCast]
  have hwritten := toList_written line
  rw [hdigits] at hwritten
  refine lineNumber_of_toList hwritten ?_
  rwa [← hdigits, String.length_toList]

/-! ## The lines of a listing -/

theorem length_listing (code : String) (map : Option SourceMap.Mapping) :
    (listing code map).length = (Text.lines code).length := by
  rw [listing, List.length_mapIdx]

/-- The lines of a listing are those of its text, numbered from one. -/
theorem getElem?_listing (code : String) (map : Option SourceMap.Mapping) (index : Nat) :
    (listing code map)[index]? = (Text.lines code)[index]?.map (lineOf map (index + 1)) := by
  rw [listing, List.getElem?_mapIdx]

theorem number_of_getElem?_listing {code : String} {map : Option SourceMap.Mapping} {index : Nat}
    {line : Line} (h : (listing code map)[index]? = some line) :
    line.number = (index + 1 : Nat) := by
  rw [getElem?_listing, Option.map_eq_some_iff] at h
  obtain ⟨text, -, rfl⟩ := h
  rfl

theorem number_nonneg_of_mem_listing {code : String} {map : Option SourceMap.Mapping} {line : Line}
    (h : line ∈ listing code map) : 0 ≤ line.number := by
  obtain ⟨index, hindex⟩ := List.mem_iff_getElem?.mp h
  rw [number_of_getElem?_listing hindex]
  exact Int.natCast_nonneg _

theorem lf_not_mem_of_mem_listing {code : String} {map : Option SourceMap.Mapping} {line : Line}
    (h : line ∈ listing code map) : '\n' ∉ line.code.toList := by
  obtain ⟨index, hindex⟩ := List.mem_iff_getElem?.mp h
  rw [getElem?_listing, Option.map_eq_some_iff] at hindex
  obtain ⟨text, htext, rfl⟩ := hindex
  exact Text.not_mem_of_mem_lines (List.mem_of_getElem? htext)

end Listing

end VmScan
