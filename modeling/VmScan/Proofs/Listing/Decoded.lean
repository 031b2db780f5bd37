import VmScan.Proofs.Json.Numbers
import VmScan.Proofs.Listing.Written
import VmScan.Text.Search

/-!
# Written lines are decoded

A written line (`FormattedLine.render`) has two columns, padded with the blank that also stands
between them, and then any code. Neither column has a mark at its end, and a number or a place that
is too wide moves what follows. Both end all the same: a number where its digits end, a place where
its second coordinate does, and what a place is short of ten characters is filled with blanks, which
are counted.

* `Shown` — what a written line shows of a line.
* `integer?`, `place?` — the integer, and the place, that a text starts with.
* `decode?` — what a written line shows, read back column by column.

Results:
* `integer?_toString`, `place?_placeForm`: a written integer, and the text of a place, are read
  back in front of anything but a digit.
* `placeAndCode?_padRight`: the second column is read back, whether a place stands in it or not,
  and whatever code stands behind it.
* `decode?_render`: a rendered line is decoded, and lines that are rendered alike show the same; a
  line is rendered unless a coordinate that it shows has too many digits.
-/

namespace VmScan

/-- What a written line shows of a line: its number, the place where both coordinates are known,
and the code. -/
structure Shown where
  number : Int
  place : Option (Int × Int)
  code : String
  deriving DecidableEq, Repr

/-- What the written form of the line shows. -/
def Line.shown (line : Line) : Shown where
  number := line.number
  place := line.sourceLine.bind fun sourceLine =>
    line.sourceColumn.map fun sourceColumn => (sourceLine, sourceColumn)
  code := line.code

namespace Listing

open VmScan.Text

/-! ## Decoding -/

/-- The integer that the text starts with, and the text behind it. -/
def integer? (cs : List Char) : Option (Int × List Char) :=
  let negative := cs.head? = some '-'
  let body := if negative then cs.drop 1 else cs
  let digits := body.takeWhile isAsciiDigit
  if digits.isEmpty then none
  else
    let n : Int := asciiDigitsValue digits
    some (if negative then -n else n, body.dropWhile isAsciiDigit)

/-- The place that the text starts with, and the text behind it. -/
def place? (cs : List Char) : Option ((Int × Int) × List Char) := do
  let coordinates ← behind? ['L'] cs
  let (line, behindLine) ← integer? coordinates
  let coordinate ← behind? [':'] behindLine
  let (column, rest) ← integer? coordinate
  return ((line, column), rest)

/-- The text behind a column of ten characters, of which this many are taken, and the blank that
stands behind every column. -/
def behindColumn? (taken : Nat) (cs : List Char) : Option (List Char) :=
  behind? (List.replicate (10 - taken) ' ' ++ [' ']) cs

/-- The place that the second column shows, and the code behind it. -/
def placeAndCode? (cs : List Char) : Option (Option (Int × Int) × List Char) :=
  match place? cs with
  | some (place, rest) => (behindColumn? (cs.length - rest.length) rest).map (some place, ·)
  | none => (behindColumn? 0 cs).map (none, ·)

/-- What a written line shows. -/
def decode? (written : String) : Option Shown := do
  let (number, rest) ← integer? (skipSpaces written.toList)
  let columns ← behind? [' '] rest
  let (place, code) ← placeAndCode? columns
  return { number, place, code := String.ofList code }

/-! ## Integers -/

/-- A written integer is read back in front of anything but a digit. -/
theorem integer?_toString (n : Int) {rest : List Char}
    (h : ∀ c ∈ rest.head?, isAsciiDigit c = false) :
    integer? ((toString n).toList ++ rest) = some (n, rest) := by
  obtain ⟨hsign, hbody⟩ := Json.sign_of_toString n rest
  rw [decide_eq_decide] at hsign
  have hdigits : ∀ c ∈ Nat.toDigits 10 n.natAbs, isAsciiDigit c = true := fun c hc =>
    Json.isAsciiDigit_of_mem_toDigits hc
  have hstop : rest.takeWhile isAsciiDigit = [] ∧ rest.dropWhile isAsciiDigit = rest := by
    cases rest with
    | nil => exact ⟨rfl, rfl⟩
    | cons c rest =>
      have hc : ¬ isAsciiDigit c = true := by simp [h c rfl]
      exact ⟨List.takeWhile_cons_of_neg hc, List.dropWhile_cons_of_neg hc⟩
  have hvalue : (if n < 0 then -(n.natAbs : Int) else n.natAbs) = n := by
    split_ifs <;> omega
  simp only [hsign] at hbody
  unfold integer?
  simp only [hsign, hbody, List.takeWhile_append_of_pos hdigits,
    List.dropWhile_append_of_pos hdigits, hstop, List.append_nil, List.isEmpty_iff,
    Nat.toDigits_ne_nil, if_false, Json.asciiDigitsValue_toDigits, hvalue]

theorem head?_blanks (count : Nat) (rest : List Char) :
    ∀ c ∈ (List.replicate count ' ' ++ ' ' :: rest).head?, isAsciiDigit c = false := by
  cases count <;> rintro c ⟨⟩ <;> rfl

/-! ## The second column -/

/-- The text of a place is read back in front of anything but a digit. -/
theorem place?_placeForm (line column : Int) {rest : List Char}
    (h : ∀ c ∈ rest.head?, isAsciiDigit c = false) :
    place? ((placeForm (some line) (some column)).toList ++ rest)
      = some ((line, column), rest) := by
  have htext : (placeForm (some line) (some column)).toList ++ rest
      = ['L'] ++ ((toString line).toList ++ ([':'] ++ ((toString column).toList ++ rest))) := by
    simp only [placeForm, String.toList_append, List.append_assoc]
    rfl
  have hcolon : ∀ c ∈ ([':'] ++ ((toString column).toList ++ rest)).head?,
      isAsciiDigit c = false := by
    rintro c ⟨⟩
    rfl
  simp only [place?, htext, behind?_eq_some_iff.mpr rfl, integer?_toString line hcolon,
    integer?_toString column h, Option.bind_eq_bind, Option.bind_some, Option.pure_def]

theorem behindColumn?_blanks (taken : Nat) (code : List Char) :
    behindColumn? taken (List.replicate (10 - taken) ' ' ++ ' ' :: code) = some code :=
  behind?_eq_some_iff.mpr (List.append_cons ..)

theorem placeAndCode?_of_blank (code : List Char) :
    placeAndCode? ((padRight 10 "").toList ++ ' ' :: code) = some (none, code) := by
  have hplace : place? (List.replicate (10 - 0) ' ' ++ ' ' :: code) = none := rfl
  have hcolumn : (padRight 10 "").toList = List.replicate (10 - 0) ' ' := toList_padRight 10 ""
  rw [hcolumn]
  simp only [placeAndCode?, hplace, behindColumn?_blanks, Option.map_some]

/-- A place ends where its second coordinate does, and the column is filled with blanks. -/
theorem placeAndCode?_of_place (line column : Int) (code : List Char) :
    placeAndCode? ((padRight 10 (placeForm (some line) (some column))).toList ++ ' ' :: code)
      = some (some (line, column), code) := by
  generalize htext : placeForm (some line) (some column) = text
  have hplace : place? (text.toList ++ (List.replicate (10 - text.length) ' ' ++ ' ' :: code))
      = some ((line, column), List.replicate (10 - text.length) ' ' ++ ' ' :: code) :=
    htext ▸ place?_placeForm line column (head?_blanks _ code)
  rw [toList_padRight, List.append_assoc]
  simp only [placeAndCode?, hplace, List.length_append, Nat.add_sub_cancel, String.length_toList,
    behindColumn?_blanks, Option.map_some]

/-- The second column is read back, whatever code stands behind it. -/
theorem placeAndCode?_padRight (line column : Option Int) (code : List Char) :
    placeAndCode? ((padRight 10 (placeForm line column)).toList ++ ' ' :: code)
      = some (line.bind fun line => column.map fun column => (line, column), code) := by
  cases line with
  | none => exact placeAndCode?_of_blank code
  | some line =>
    cases column with
    | none => exact placeAndCode?_of_blank code
    | some column => exact placeAndCode?_of_place line column code

/-! ## Lines -/

theorem skipSpaces_blanks (count : Nat) {c : Char} (hc : c ≠ ' ') (rest : List Char) :
    skipSpaces (List.replicate count ' ' ++ c :: rest) = c :: rest := by
  rw [skipSpaces, List.dropWhile_append_of_pos (by simp), List.dropWhile_cons_of_neg (by simpa)]

theorem decode?_written (line : Line) : decode? line.written = some line.shown := by
  obtain ⟨first, digits, hnumber, hfirst⟩ : ∃ first digits,
      (toString line.number).toList = first :: digits ∧ first ≠ ' ' := by
    have hstart := Json.startsNumber_toString line.number []
    rw [List.append_nil] at hstart
    obtain ⟨first, digits, hnumber, hblank, -⟩ := hstart.exists_cons
    exact ⟨first, digits, hnumber, by rintro rfl; cases hblank⟩
  have hinteger := integer?_toString line.number (head?_blanks 0
    ((padRight 10 (placeForm line.sourceLine line.sourceColumn)).toList ++ ' ' :: line.code.toList))
  have hwritten := toList_written line
  rw [hnumber, List.cons_append] at hwritten hinteger
  have hblank : ∀ columns, behind? [' '] (List.replicate 0 ' ' ++ ' ' :: columns) = some columns :=
    fun columns => behind?_eq_some_iff.mpr rfl
  rw [decode?, hwritten, skipSpaces_blanks _ hfirst]
  simp only [List.replicate_zero, List.nil_append] at hinteger hblank
  simp only [hinteger, hblank, placeAndCode?_padRight, Option.bind_eq_bind, Option.bind_some,
    Option.pure_def, String.ofList_toList]
  rfl

/-- **Rendered lines are uniquely decodable.** A line with a coordinate missing, or with coordinates
that do not have too many digits, is rendered. The text is decoded as its number, its place, if both
coordinates are known, and its code as it is; the number can also be read alone; and lines that are
rendered alike show the same. Any other line is not rendered. -/
theorem decode?_render {line : Line} (hnumber : 0 ≤ line.number)
    (hdigits : (toString line.number).length ≤ Number.maxDigits) :
    (line.PlaceWritable → ∃ text, line.render = .ok text ∧
      decode? text = some line.shown ∧
      lineNumber text = .ok line.number.toNat ∧
      ∀ other : Line, other.render = .ok text → other.shown = line.shown) ∧
    (¬ line.PlaceWritable → line.render = .error .tooManyDigits) := by
  refine ⟨fun hplace => ⟨line.written, ?_, decode?_written line, ?_, fun other hother => ?_⟩,
    fun hplace => ?_⟩
  · exact render_of_writable ⟨(Number.writable_iff_length hnumber).mpr hdigits, hplace⟩
  · exact lineNumber_written (Int.toNat_of_nonneg hnumber).symm hdigits
  · obtain ⟨-, hsame⟩ := render_eq_ok_iff.mp hother
    have hshown := decode?_written other
    rw [← hsame, decode?_written line] at hshown
    exact (Option.some.inj hshown).symm
  · exact render_of_not_writable fun hwritable => hplace hwritable.place

/-- A number and a place that are too wide for their columns, and code that looks like both. -/
theorem decode?_render_wide :
    let line : Line := ⟨1234567, some 12345678, some (-90), "  7 L1:2 "⟩
    let written := "1234567 L12345678:-90   7 L1:2 "
    0 ≤ line.number ∧ (toString line.number).length ≤ Number.maxDigits ∧
      line.PlaceWritable ∧ line.render = .ok written ∧
      decode? written = some ⟨1234567, some (12345678, -90), "  7 L1:2 "⟩ ∧
      lineNumber written = .ok 1234567 ∧
      ∀ other : Line, other.render = .ok written → other.shown = line.shown := by
  intro line written
  have hnumber : 0 ≤ line.number := by decide
  have hdigits : (toString line.number).length ≤ Number.maxDigits := by decide +kernel
  have hplace : line.PlaceWritable := by
    rintro _ ⟨⟩ _ ⟨⟩
    exact ⟨by decide +kernel, by decide +kernel⟩
  obtain ⟨text, hrender, hdecoded, hread, halike⟩ := (decode?_render hnumber hdigits).1 hplace
  have hwritten : line.written = written := by decide +kernel
  obtain rfl : text = written := (render_eq_ok_iff.mp hrender).2.trans hwritten
  exact ⟨hnumber, hdigits, hplace, hrender, hdecoded, hread, halike⟩

/-- A line from a place with one digit too many. -/
def farLine : Line where
  number := 1
  sourceLine := some (Nat.pow 10 Number.maxDigits : Nat)
  sourceColumn := some 0
  code := "a;"

/-- Not every line can be decoded, since a line from a place that is too far away has no text. -/
theorem render_farLine :
    farLine.render = .error .tooManyDigits ∧
      ¬ ∃ decoder : String → Option Shown, ∀ line : Line, 1 ≤ line.number →
        (toString line.number).length ≤ Number.maxDigits → '\n' ∉ line.code.toList →
          ∃ text, line.render = .ok text ∧ decoder text = some line.shown := by
  have hfar : farLine.render = .error .tooManyDigits := render_of_not_writable fun hwritable =>
    Nat.lt_irrefl _ ((Number.writable_natCast_iff _).mp (hwritable.place _ rfl _ rfl).1)
  refine ⟨hfar, fun ⟨decoder, hdecoder⟩ => ?_⟩
  obtain ⟨text, hrender, -⟩ := hdecoder farLine (by decide) (by decide +kernel) (by decide)
  rw [hfar] at hrender
  cases hrender

end Listing

end VmScan
