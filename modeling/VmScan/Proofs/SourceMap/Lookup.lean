import VmScan.Proofs.SourceMap.Beside
import VmScan.Proofs.SourceMap.Search

/-!
# Looking up a place

A text is a map exactly if it gives names, sources and mappings whose segments are all read without
a sum below zero. The map has, on each line, the segments that the moves of the mappings make, in
the order in which the mappings write them, and this is the order in which a lookup searches them.

* `Writes` — the text gives these sources and names, and mappings of these moves.
* `Origin.shown` — a place as it is shown, with its line counted from one.
* `Answers` — what is shown for a column of a row.

Results:
* `ofText_eq_ok_iff`: the texts that are maps, with their maps.
* `originAt_answers`: a lookup shows the place of the segment that the search finds, which is the
  closest one at or before the column exactly if the search passes over no other. It passes over
  none where the segments of the line ascend, or one of them is at the column.
* `originAt_backStep`: on a line whose second segment steps back, the search passes over the first.
-/

namespace VmScan.SourceMap

open VmScan.Json

/-! ## The texts that are maps -/

/-- The text gives the sources and names of a map, and mappings that are read as the moves. -/
def Writes (runtime : Runtime) (text : String) (sources : Sources) (names : List String)
    (mappings : String) (moves : List Move) : Prop :=
  ∃ members, HasMappings runtime text.toList members mappings ∧ FitsWriting runtime members ∧
    namesOf (partOf members "names") = .ok names ∧
    sourcesOf ((get? members "sourceRoot").getD .null) (partOf members "sources") = .ok sources ∧
    Passes sources names [] (placed mappings) moves

theorem Writes.passes {runtime : Runtime} {text mappings : String} {sources : Sources}
    {names : List String} {moves : List Move}
    (h : Writes runtime text sources names mappings moves) :
    Passes sources names [] (placed mappings) moves := by
  obtain ⟨-, -, -, -, -, hpasses⟩ := h
  exact hpasses

/-- The mappings are decoded exactly with names and sources, as the rows of their lines. -/
theorem decodeMappings_eq_ok_iff {members : Members} {mappings : String} {mapping : Mapping} :
    decodeMappings members mappings = .ok mapping ↔
      ∃ names sources, namesOf (partOf members "names") = .ok names ∧
        sourcesOf ((get? members "sourceRoot").getD .null) (partOf members "sources")
          = .ok sources ∧
        decodeLines sources names {} (Text.splitOn ';' mappings.toList) = .ok mapping.lines := by
  unfold decodeMappings
  constructor
  · intro h
    cases hnames : namesOf (partOf members "names") with
    | error cause =>
      rw [hnames] at h
      cases h
    | ok names =>
      cases hsources : sourcesOf ((get? members "sourceRoot").getD .null)
          (partOf members "sources") with
      | error cause =>
        simp only [hnames, hsources] at h
        cases h
      | ok sources =>
        simp only [hnames, hsources, Except.mapError, bind, Except.bind] at h
        cases hlines : decodeLines sources names {} (Text.splitOn ';' mappings.toList) with
        | error fault =>
          rw [hlines] at h
          cases h
        | ok lines =>
          rw [hlines] at h
          cases h
          exact ⟨names, sources, rfl, rfl, hlines⟩
  · rintro ⟨names, sources, hnames, hsources, hlines⟩
    simp only [hnames, hsources, Except.mapError, bind, Except.bind, hlines]
    rfl

/-- The rows of the lines, by the moves of the mappings. -/
theorem decodeLines_eq_ok_iff {sources : Sources} {names : List String} {mappings : String}
    {rows : List (List Segment)} :
    decodeLines sources names {} (Text.splitOn ';' mappings.toList) = .ok rows ↔
      ∃ moves, Passes sources names [] (placed mappings) moves ∧
        rows = (List.range (Text.splitOn ';' mappings.toList).length).map
          fun line => segmentsOn sources names line moves := by
  have hfresh : ∀ move ∈ ([] : List Move), move.line < 0 := fun move hmove => nomatch hmove
  rw [List.range_eq_range']
  exact (decodeLines_iff (Text.splitOn ';' mappings.toList) hfresh).2 rows

/-- **A text is a map exactly if it writes moves**, and it is the map of the segments that they make
on its lines. -/
theorem ofText_eq_ok_iff {runtime : Runtime} {text : String} {mapping : Mapping} :
    ofText runtime text = .ok mapping ↔
      ∃ sources names mappings moves, Writes runtime text sources names mappings moves ∧
        mapping.lines = (List.range (Text.splitOn ';' mappings.toList).length).map
          fun line => segmentsOn sources names line moves := by
  constructor
  · intro h
    unfold ofText ofTextWith at h
    split at h
    · cases h
    · next members hdecode =>
      rcases ofMembers_cases runtime decodeMappings members with
        ⟨fault, hfault, -⟩ | ⟨mappings, hplain, hmappings⟩
      · rw [h] at hfault
        cases hfault
      · by_cases hfits : FitsWriting runtime members
        · rw [ofMembers_eq decodeMappings hplain hmappings hfits] at h
          obtain ⟨names, sources, hnames, hsources, hlines⟩ := decodeMappings_eq_ok_iff.mp h
          obtain ⟨moves, hpasses, hrows⟩ := decodeLines_eq_ok_iff.mp hlines
          exact ⟨sources, names, mappings, moves,
            ⟨members, ⟨hdecode, hplain, hmappings⟩, hfits, hnames, hsources, hpasses⟩, hrows⟩
        · rw [ofMembers_tooDeep decodeMappings hplain hmappings hfits] at h
          cases h
    · cases h
  · rintro ⟨sources, names, mappings, moves,
      ⟨members, hmap, hfits, hnames, hsources, hpasses⟩, hrows⟩
    have hlines := decodeLines_eq_ok_iff.mpr ⟨moves, hpasses, hrows⟩
    rw [ofText, ofTextWith, hmap.decode_eq]
    exact (ofMembers_eq decodeMappings hmap.plain hmap.mappings_eq hfits).trans
      (decodeMappings_eq_ok_iff.mpr ⟨names, sources, hnames, hsources, hlines⟩)

/-! ## Lookups -/

/-- Behind the last line of the mappings no move is made. -/
theorem segmentsOn_of_le {sources : Sources} {names : List String} {mappings : String}
    {moves : List Move} (h : Passes sources names [] (placed mappings) moves) {line : Nat}
    (hline : (Text.splitOn ';' mappings.toList).length ≤ line) :
    segmentsOn sources names line moves = [] := by
  refine segmentsBehind_of_ne [] fun move hmove => ?_
  have hadded : Passes sources names [] (placed mappings) ([] ++ moves) := h
  obtain ⟨segment, hsegment, hsame⟩ := hadded.line_of_mem hmove
  obtain ⟨⟨text, number⟩, hnumber, hplace⟩ := List.mem_flatMap.mp hsegment
  have hlt := (List.mem_zipIdx hnumber).2.1
  rw [← hsame, line_of_mem_placedOn hplace]
  omega

/-- The row of a line, which is empty where the map has no such line. -/
theorem getElem?_rows {sources : Sources} {names : List String} {mappings : String}
    {moves : List Move} (h : Passes sources names [] (placed mappings) moves) (line : Nat) :
    (((List.range (Text.splitOn ';' mappings.toList).length).map
        fun line => segmentsOn sources names line moves)[line]?).getD []
      = segmentsOn sources names line moves := by
  rw [List.getElem?_map]
  by_cases hline : line < (Text.splitOn ';' mappings.toList).length
  · rw [List.getElem?_range hline]
    rfl
  · rw [List.getElem?_eq_none (by rw [List.length_range]; omega)]
    exact (segmentsOn_of_le h (Nat.le_of_not_lt hline)).symm

/-- A lookup searches the row of the line, where there is no row as in an empty one. -/
theorem originAt_eq (mapping : Mapping) {line column : Int} (hline : 1 ≤ line)
    (hcolumn : 0 ≤ column) :
    mapping.originAt line column
      = (segmentAt? (mapping.lines[(line - 1).toNat]?.getD []) column).bind (·.origin) := by
  rw [Mapping.originAt, if_neg (by omega)]
  cases mapping.lines[(line - 1).toNat]? with
  | none =>
    have hnone := found_segmentAt? [] column
    cases hfound : segmentAt? [] column with
    | none => exact (congrArg (Option.bind · _) hfound).symm
    | some segment =>
      rw [hfound] at hnone
      exact nomatch hnone.lastAt.1.mem
  | some row => rfl

/-- A place as it is shown: its source, its line counted from one, its column and its name. -/
def Origin.shown (origin : Origin) : Value × Int × Int × Option String :=
  (origin.source, origin.line + 1, origin.column, origin.name)

/-- What is shown for a column of a row: the place of the segment that the search finds, if it has
one, and nothing otherwise. That segment is the closest one at or before the column exactly if
there is no other between the two. -/
structure Answers (row : List Segment) (column : Int)
    (shown : Option (Value × Int × Int × Option String)) : Prop where
  found : Found row column (segmentAt? row column)
  shown_eq : shown = (segmentAt? row column).bind (·.origin.map Origin.shown)
  closest_iff : Closest row column (segmentAt? row column) ↔
    ∀ other ∈ row, other.column ≤ column →
      ∃ segment, segmentAt? row column = some segment ∧ other.column ≤ segment.column
  closest_of_ascending : (row.Pairwise fun a b => a.column ≤ b.column) →
    Closest row column (segmentAt? row column)
  closest_of_mem : (∃ segment ∈ row, segment.column = column) →
    Closest row column (segmentAt? row column)

/-- **A lookup answers from the row of its line.** In every map that a text writes, each line
counted from one and each column are looked up among the segments that the mappings make on that
line, in the order in which they make them. -/
theorem originAt_answers {runtime : Runtime} {text : String} {mapping : Mapping}
    (h : ofText runtime text = .ok mapping) :
    ∃ sources names mappings moves, Writes runtime text sources names mappings moves ∧
      ∀ line column : Int, 1 ≤ line → 0 ≤ column →
        Answers (segmentsOn sources names (line - 1).toNat moves) column
          ((mapping.originAt line column).map Origin.shown) := by
  obtain ⟨sources, names, mappings, moves, hwrites, hlines⟩ := ofText_eq_ok_iff.mp h
  refine ⟨sources, names, mappings, moves, hwrites, fun line column hline hcolumn => ?_⟩
  have hfound := found_segmentAt? (segmentsOn sources names (line - 1).toNat moves) column
  refine ⟨hfound, ?_, hfound.closest_iff, hfound.closest_of_ascending,
    fun ⟨segment, hmem, hown⟩ => hfound.closest_of_mem hmem hown⟩
  rw [originAt_eq mapping hline hcolumn, hlines, getElem?_rows hwrites.passes]
  exact Option.map_bind

/-- A map whose second segment steps back, from column 10 to column 2. -/
def backStep : String :=
  "\x7b\"version\":3,\"sources\":[\"min.js\"],\"names\":[],\"mappings\":\"UAAA,RACA\"\x7d"

/-- On its line are columns 10 and 2 in this order, of lines 1 and 2 of the source, and column 11
is answered with line 2. -/
theorem ofText_backStep : ∃ mapping, ofText .usual backStep = .ok mapping ∧
    mapping.lines.map (·.map fun segment => (segment.column, segment.origin.map (·.line + 1)))
      = [[(10, some 1), (2, some 2)]] ∧
    (mapping.originAt 1 11).map (·.line + 1) = some 2 := by
  have hread : (ofText .usual backStep).toOption.map (fun mapping =>
      (mapping.lines.map (·.map fun segment => (segment.column, segment.origin.map (·.line + 1))),
        (mapping.originAt 1 11).map (·.line + 1)))
      = some ([[(10, some 1), (2, some 2)]], some 2) := by
    decide +kernel
  cases hmapping : ofText .usual backStep with
  | error fault =>
    rw [hmapping] at hread
    cases hread
  | ok mapping =>
    rw [hmapping] at hread
    obtain ⟨hrows, hline⟩ := Prod.mk.inj (Option.some.inj hread)
    exact ⟨mapping, rfl, hrows, hline⟩

/-- In this map, too, a lookup answers from the row of its line. -/
theorem originAt_answers_backStep : ∃ mapping, ofText .usual backStep = .ok mapping ∧
    ∃ sources names mappings moves, Writes .usual backStep sources names mappings moves ∧
      ∀ line column : Int, 1 ≤ line → 0 ≤ column →
        Answers (segmentsOn sources names (line - 1).toNat moves) column
          ((mapping.originAt line column).map Origin.shown) := by
  obtain ⟨mapping, hread, -⟩ := ofText_backStep
  exact ⟨mapping, hread, originAt_answers hread⟩

/-- **A step back hides the closest segment**: of the segments at columns 10 and 2 the first is the
closest one before column 11, and the lookup answers with the second. -/
theorem originAt_backStep : ∃ mapping sources names mappings moves,
    ofText .usual backStep = .ok mapping ∧ Writes .usual backStep sources names mappings moves ∧
      ∃ closest, Closest (segmentsOn sources names 0 moves) 11 (some closest) ∧
        (mapping.originAt 1 11).map Origin.shown ≠ closest.origin.map Origin.shown := by
  obtain ⟨mapping, hread, hshape, hanswer⟩ := ofText_backStep
  obtain ⟨sources, names, mappings, moves, hwrites, hlines⟩ := ofText_eq_ok_iff.mp hread
  have hrow : mapping.lines[0]?.getD [] = segmentsOn sources names 0 moves := by
    rw [hlines, getElem?_rows hwrites.passes]
  obtain ⟨row, hrows, hsegments⟩ := List.map_eq_singleton_iff.mp hshape
  obtain ⟨first, rest, rfl, hfirst, hrest⟩ := List.map_eq_cons_iff.mp hsegments
  obtain ⟨second, rfl, hsecond⟩ := List.map_eq_singleton_iff.mp hrest
  obtain ⟨hten, hone⟩ := Prod.mk.inj hfirst
  obtain ⟨htwo, -⟩ := Prod.mk.inj hsecond
  rw [hrows] at hrow
  refine ⟨mapping, sources, names, mappings, moves, hread, hwrites, first, ?_, fun hsame => ?_⟩
  · rw [← hrow]
    exact ⟨⟨[], [second], rfl, by simp [hten, htwo]⟩, by omega, by simp [hten, htwo]⟩
  · have hlines := congrArg (Option.map fun shown : Value × Int × Int × Option String => shown.2.1)
      hsame
    rw [Option.map_map, Option.map_map] at hlines
    have hsource : some (2 : Int) = some 1 := hanswer.symm.trans (hlines.trans hone)
    cases hsource

end VmScan.SourceMap
