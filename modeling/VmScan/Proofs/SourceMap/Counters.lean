import Mathlib.Tactic.SplitIfs
import VmScan.SourceMap.Reader

/-!
# The counters of the mappings

The numbers of a segment are steps: the generated column adds up the first ones along a line, and
the counters for source, line, column and name add up the others along all lines. The mappings are
read segment by segment, and the sums decide what becomes of them.

* `Placed` — a segment of the mappings with the number of its line; `placed` lists all of them.
* `Move` — the numbers of a segment with the number of its line.
* `total`, `columnOf`, `countersOf` — the sums behind a row of moves.
* `originOf`, `segmentAfter`, `segmentsOn` — the segments that a row of moves makes.
* `Takes` — behind a row of moves, a segment is a move whose source and name there are.
* `Below` — a sum is below zero.
* `Passes`, `GoesBelow` — the segments are read without a sum below zero, or up to one that takes a
  sum there.

Results:
* `decodeSegment_cases`: what becomes of one segment.
* `decodeLine_iff`, `decodeLines_iff`: the segments of a line, and of all lines, are those that the
  moves make.
* `decodeLines_eq_negative_iff`: the mappings are refused for a negative position exactly if they
  go below zero.
-/

namespace VmScan.SourceMap

open VmScan.Json

/-! ## Segments and moves -/

/-- A segment of the mappings with the number of its line. -/
structure Placed where
  line : Nat
  text : List Char

/-- The segments of a line. -/
def placedOn (line : Nat) (texts : List (List Char)) : List Placed :=
  (texts.filter fun text => !text.isEmpty).map fun text => { line, text }

/-- The segments of the lines from the one with the given number on. -/
def placedFrom (first : Nat) (lines : List (List Char)) : List Placed :=
  (lines.zipIdx first).flatMap fun (line, number) => placedOn number (Text.splitOn ',' line)

/-- The segments of the mappings. -/
def placed (mappings : String) : List Placed :=
  placedFrom 0 (Text.splitOn ';' mappings.toList)

/-- The numbers of a segment with the number of its line. -/
structure Move where
  line : Nat
  values : List Int

/-- The sum of the numbers at one place of the moves. -/
def total (place : Nat) : List Move → Int
  | [] => 0
  | move :: moves => move.values.getD place 0 + total place moves

/-- The generated column behind the moves of a line. -/
def columnOf (line : Nat) (moves : List Move) : Int :=
  total 0 (moves.filter fun move => move.line = line)

/-- The counters behind the moves. -/
def countersOf (moves : List Move) : Counters where
  source := total 1 moves
  line := total 2 moves
  column := total 3 moves
  name := total 4 moves

/-- The source with the given number, if there is one. -/
def Sources.at? : Sources → Int → Option Value
  | .listed items, index => itemAt? items index
  | _, _ => none

/-- The place to which a segment refers, by its numbers and the sums up to it. A single number
refers to no place, a null source is none, and only a fifth number refers to a name. -/
def originOf (sources : Sources) (names : List String) (sums : Counters) (values : List Int) :
    Option Origin :=
  if values.length ≤ 1 then none
  else match sources.at? sums.source with
    | none | some .null => none
    | some source => some {
        source
        line := sums.line
        column := sums.column
        name := if 5 ≤ values.length then itemAt? names sums.name else none }

/-- The segment that a move makes behind others. -/
def segmentAfter (sources : Sources) (names : List String) (moves : List Move) (move : Move) :
    Segment where
  column := columnOf move.line (moves ++ [move])
  origin := originOf sources names (countersOf (moves ++ [move])) move.values

/-- The segments on a line that the moves make behind those before them. -/
def segmentsBehind (sources : Sources) (names : List String) (line : Nat) (before : List Move) :
    List Move → List Segment
  | [] => []
  | move :: moves =>
    let others := segmentsBehind sources names line (before ++ [move]) moves
    if move.line = line then segmentAfter sources names before move :: others else others

/-- The segments on a line that the moves make, in order. -/
def segmentsOn (sources : Sources) (names : List String) (line : Nat) (moves : List Move) :
    List Segment :=
  segmentsBehind sources names line [] moves

/-- There is a source with this number. -/
def Sources.Has : Sources → Int → Prop
  | .listed items, index => 0 ≤ index ∧ index < items.length
  | _, _ => False

/-- A move that refers to something names a source, and perhaps a name, that there are. -/
def Resolves (sources : Sources) (names : List String) (source name : Int) (values : List Int) :
    Prop :=
  values.length ≤ 1 ∨ 4 ≤ values.length ∧ sources.Has source ∧
    (5 ≤ values.length → 0 ≤ name ∧ name < names.length)

/-- Behind the moves, the segment is a move whose source and name there are. -/
structure Takes (sources : Sources) (names : List String) (moves : List Move) (segment : Placed)
    (move : Move) : Prop where
  line : move.line = segment.line
  values : segmentValues segment.text = .ok move.values
  resolves : Resolves sources names (total 1 (moves ++ [move])) (total 4 (moves ++ [move]))
    move.values

/-- Behind the moves, the generated column of the line, or the line or column of the source, is
below zero. -/
def Below (line : Nat) (moves : List Move) : Prop :=
  columnOf line moves < 0 ∨ total 2 moves < 0 ∨ total 3 moves < 0

/-- The segments are read behind the moves, and none takes a sum below zero. -/
inductive Passes (sources : Sources) (names : List String) :
    List Move → List Placed → List Move → Prop where
  | nil (moves : List Move) : Passes sources names moves [] moves
  | cons {moves after : List Move} {segment : Placed} {segments : List Placed} {move : Move}
      (htakes : Takes sources names moves segment move)
      (habove : ¬ Below move.line (moves ++ [move]))
      (hrest : Passes sources names (moves ++ [move]) segments after) :
      Passes sources names moves (segment :: segments) after

/-- The segments are read behind the moves up to one that takes a sum below zero. -/
inductive GoesBelow (sources : Sources) (names : List String) :
    List Move → List Placed → Prop where
  | here {moves : List Move} {segment : Placed} {segments : List Placed} {move : Move}
      (htakes : Takes sources names moves segment move)
      (hbelow : Below move.line (moves ++ [move])) :
      GoesBelow sources names moves (segment :: segments)
  | later {moves : List Move} {segment : Placed} {segments : List Placed} {move : Move}
      (htakes : Takes sources names moves segment move)
      (habove : ¬ Below move.line (moves ++ [move]))
      (hrest : GoesBelow sources names (moves ++ [move]) segments) :
      GoesBelow sources names moves (segment :: segments)

/-! ## Sums -/

section Sums

variable (moves : List Move) (move : Move)

theorem total_append_singleton (place : Nat) :
    total place (moves ++ [move]) = total place moves + move.values.getD place 0 := by
  induction moves with
  | nil => exact Int.add_comm _ _
  | cons first moves ih => rw [List.cons_append, total, total, ih, Int.add_assoc]

theorem columnOf_append_singleton :
    columnOf move.line (moves ++ [move]) = columnOf move.line moves + move.values.getD 0 0 := by
  rw [columnOf, List.filter_append, List.filter_cons_of_pos (by simp), List.filter_nil,
    total_append_singleton]
  rfl

/-- On a line without a move, the column is the first. -/
theorem columnOf_of_fresh {moves : List Move} {line : Nat} (h : ∀ move ∈ moves, move.line < line) :
    columnOf line moves = 0 := by
  have hnone : moves.filter (fun move => move.line = line) = [] := by
    rw [List.filter_eq_nil_iff]
    intro move hmove
    have hlt := h move hmove
    simp only [decide_eq_true_eq]
    omega
  rw [columnOf, hnone]
  rfl

variable {sources : Sources} {names : List String} {line : Nat} {moves}

theorem segmentsBehind_append (before more : List Move) :
    segmentsBehind sources names line before (moves ++ more)
      = segmentsBehind sources names line before moves
        ++ segmentsBehind sources names line (before ++ moves) more := by
  induction moves generalizing before with
  | nil => rw [List.append_nil, List.nil_append, segmentsBehind, List.nil_append]
  | cons first moves ih =>
    rw [List.cons_append, segmentsBehind, segmentsBehind, ih, List.append_assoc,
      List.singleton_append]
    split_ifs <;> rfl

/-- Moves on other lines make no segments. -/
theorem segmentsBehind_of_ne (before : List Move) (h : ∀ move ∈ moves, move.line ≠ line) :
    segmentsBehind sources names line before moves = [] := by
  induction moves generalizing before with
  | nil => rfl
  | cons first moves ih =>
    rw [segmentsBehind, if_neg (h first List.mem_cons_self)]
    exact ih _ fun move hmove => h move (List.mem_cons_of_mem first hmove)

end Sums

/-! ## One segment -/

/-- The counters behind a move. -/
def Counters.advance (counters : Counters) (values : List Int) : Counters where
  source := counters.source + values.getD 1 0
  line := counters.line + values.getD 2 0
  column := counters.column + values.getD 3 0
  name := counters.name + values.getD 4 0

theorem countersOf_append_singleton (moves : List Move) (move : Move) :
    countersOf (moves ++ [move]) = (countersOf moves).advance move.values := by
  simp only [countersOf, Counters.advance, total_append_singleton]

section Segments

variable {sources : Sources} {names : List String}

/-- An item is found exactly at the numbers of the list. -/
theorem itemAt?_cases {α : Type} (items : List α) (index : Int) :
    ((0 ≤ index ∧ index < items.length) ∧ ∃ item, itemAt? items index = some item) ∨
      ¬ (0 ≤ index ∧ index < items.length) ∧ itemAt? items index = none := by
  by_cases hindex : 0 ≤ index ∧ index < items.length
  · have hlt : index.toNat < items.length := by omega
    exact Or.inl ⟨hindex, _, (if_neg (by omega)).trans (List.getElem?_eq_getElem hlt)⟩
  · refine Or.inr ⟨hindex, ?_⟩
    rw [itemAt?]
    split_ifs
    · rfl
    · rw [List.getElem?_eq_none (by omega)]

/-- A source that is there is found, and any other is refused. -/
theorem sourceAt_cases (sources : Sources) (segment : String) (index : Int) :
    (sources.Has index ∧ ∃ value, sourceAt sources segment index = .ok value ∧
        sources.at? index = some value) ∨
      ¬ sources.Has index ∧ ∃ fault, sourceAt sources segment index = .error fault ∧
        fault.isContained = true := by
  cases sources with
  | unsized kind => exact Or.inr ⟨id, _, rfl, rfl⟩
  | keyed count =>
    refine Or.inr ⟨id, ?_⟩
    rw [sourceAt]
    split
    · exact ⟨_, rfl, rfl⟩
    · exact ⟨_, rfl, rfl⟩
  | listed items =>
    rcases itemAt?_cases items index with ⟨hindex, source, hitem⟩ | ⟨hindex, hitem⟩
    · exact Or.inl ⟨hindex, source, by simp only [sourceAt, hitem], hitem⟩
    · refine Or.inr ⟨hindex, .sourceOutOfRange segment index items.length, ?_, rfl⟩
      simp only [sourceAt, hitem]

/-- A name that is there is found, and any other is refused. -/
theorem nameAt_cases (names : List String) (segment : String) (index : Int) :
    ((0 ≤ index ∧ index < names.length) ∧ ∃ name, nameAt names segment index = .ok name ∧
        itemAt? names index = some name) ∨
      ¬ (0 ≤ index ∧ index < names.length) ∧ ∃ fault, nameAt names segment index = .error fault ∧
        fault.isContained = true := by
  rcases itemAt?_cases names index with ⟨hindex, name, hitem⟩ | ⟨hindex, hitem⟩
  · exact Or.inl ⟨hindex, name, by simp only [nameAt, hitem], hitem⟩
  · refine Or.inr ⟨hindex, .nameOutOfRange segment index names.length, ?_, rfl⟩
    simp only [nameAt, hitem]

section Origins

variable {segment : String} {counters : Counters} {values : List Int} {value : Value}
  {fault : Fault}

theorem decodeOrigin_of_noSource
    (h : sourceAt sources segment (counters.advance values).source = .error fault) :
    decodeOrigin sources names segment values counters = .error fault := by
  rw [Counters.advance] at h
  simp only [decodeOrigin, h, bind, Except.bind]

theorem decodeOrigin_of_short
    (hsource : sourceAt sources segment (counters.advance values).source = .ok value)
    (h : values.length < 4) :
    decodeOrigin sources names segment values counters = .error (.shortSegment segment values) := by
  rw [Counters.advance] at hsource
  simp only [decodeOrigin, hsource, bind, Except.bind]
  split
  · exact absurd h (by simp)
  · rfl

theorem decodeOrigin_of_noName
    (hsource : sourceAt sources segment (counters.advance values).source = .ok value)
    (hfive : 5 ≤ values.length)
    (h : nameAt names segment (counters.advance values).name = .error fault) :
    decodeOrigin sources names segment values counters = .error fault := by
  rcases values with _ | ⟨first, _ | ⟨second, _ | ⟨third, _ | ⟨fourth, _ | ⟨fifth, more⟩⟩⟩⟩⟩
  case cons.cons.cons.cons.cons =>
    rw [Counters.advance] at hsource h
    simp only [List.getD_cons_succ, List.getD_cons_zero] at hsource h
    simp only [decodeOrigin, List.getD_cons_succ, List.getD_cons_zero, hsource, h, bind,
      Except.bind]
  all_goals exact absurd hfive (by simp)

/-- A segment whose source and name there are has the place of the sums up to it. -/
theorem decodeOrigin_of_resolved
    (hsource : sourceAt sources segment (counters.advance values).source = .ok value)
    (hat : sources.at? (counters.advance values).source = some value) (hfour : 4 ≤ values.length)
    (h : 5 ≤ values.length → ∃ name, nameAt names segment (counters.advance values).name = .ok name ∧
      itemAt? names (counters.advance values).name = some name) :
    decodeOrigin sources names segment values counters
      = .ok (originOf sources names (counters.advance values) values, counters.advance values) := by
  unfold originOf
  rw [if_neg (by omega), hat]
  rcases values with _ | ⟨first, _ | ⟨second, _ | ⟨third, _ | ⟨fourth, more⟩⟩⟩⟩
  case cons.cons.cons.cons =>
    rw [Counters.advance] at hsource
    simp only [List.getD_cons_succ, List.getD_cons_zero] at hsource
    cases more with
    | nil =>
      -- without a fifth number the counter of the names stays where it is
      have hname : counters.advance [first, second, third, fourth] = { counters with
          source := counters.source + second, line := counters.line + third,
          column := counters.column + fourth } :=
        congrArg (Counters.mk _ _ _) (Int.add_zero counters.name)
      rw [hname]
      simp only [decodeOrigin, List.getD_cons_succ, List.getD_cons_zero, hsource, bind, Except.bind]
      cases value <;> rfl
    | cons fifth more =>
      obtain ⟨name, hname, hitem⟩ := h (by simp)
      rw [if_pos (by simp), hitem]
      rw [Counters.advance] at hname
      simp only [List.getD_cons_succ, List.getD_cons_zero] at hname
      simp only [decodeOrigin, List.getD_cons_succ, List.getD_cons_zero, hsource, hname, bind,
        Except.bind]
      cases value <;> rfl
  all_goals exact absurd hfour (by simp)

end Origins

/-- What becomes of the place to which a segment refers. -/
theorem decodeOrigin_cases (segment : String) (counters : Counters) {values : List Int}
    (h : 1 < values.length) :
    (Resolves sources names (counters.advance values).source (counters.advance values).name values ∧
      decodeOrigin sources names segment values counters
        = .ok (originOf sources names (counters.advance values) values,
          counters.advance values)) ∨
    ¬ Resolves sources names (counters.advance values).source (counters.advance values).name
      values ∧
      ∃ fault, decodeOrigin sources names segment values counters = .error fault ∧
        fault.isContained = true := by
  have hmany : ¬ values.length ≤ 1 := Nat.not_le.mpr h
  rcases sourceAt_cases sources segment (counters.advance values).source with
    ⟨hhas, value, hsource, hat⟩ | ⟨hhas, fault, hsource, hfault⟩
  · by_cases hfour : 4 ≤ values.length
    · by_cases hfive : 5 ≤ values.length
      · rcases nameAt_cases names segment (counters.advance values).name with
          ⟨hindex, hname⟩ | ⟨hindex, fault, hname, hfault⟩
        · exact Or.inl ⟨Or.inr ⟨hfour, hhas, fun _ => hindex⟩,
            decodeOrigin_of_resolved hsource hat hfour fun _ => hname⟩
        · refine Or.inr ⟨?_, fault, decodeOrigin_of_noName hsource hfive hname, hfault⟩
          rintro (hshort | ⟨-, -, hthere⟩)
          · exact hmany hshort
          · exact hindex (hthere hfive)
      · exact Or.inl ⟨Or.inr ⟨hfour, hhas, fun h => absurd h hfive⟩,
          decodeOrigin_of_resolved hsource hat hfour fun h => absurd h hfive⟩
    · refine Or.inr ⟨?_, _, decodeOrigin_of_short hsource (Nat.lt_of_not_le hfour), rfl⟩
      rintro (hshort | ⟨hlong, -⟩)
      · exact hmany hshort
      · exact hfour hlong
  · refine Or.inr ⟨?_, fault, decodeOrigin_of_noSource hsource, hfault⟩
    rintro (hshort | ⟨-, hnone, -⟩)
    · exact hmany hshort
    · exact hhas hnone

/-- The numbers of a segment are refused for a fault that is contained. -/
theorem segmentValues_error {text : List Char} {fault : Fault}
    (h : segmentValues text = .error fault) : fault.isContained = true := by
  unfold segmentValues at h
  split at h <;> cases h <;> rfl

/-- One number moves the generated column alone. -/
theorem Counters.advance_of_length_le_one (counters : Counters) {values : List Int}
    (h : values.length ≤ 1) : counters.advance values = counters := by
  have hzero : ∀ place, 1 ≤ place → values.getD place 0 = 0 := fun place hplace => by
    rw [List.getD_eq_getElem?_getD, List.getElem?_eq_none (Nat.le_trans h hplace)]
    rfl
  simp only [Counters.advance, hzero 1 (by decide), hzero 2 (by decide), hzero 3 (by decide),
    hzero 4 (by decide), Int.add_zero]

/-- The sums behind a segment are below zero. -/
def Negative (column : Int) (counters : Counters) : Prop :=
  column < 0 ∨ counters.line < 0 ∨ counters.column < 0

section Reading

variable {counters : Counters} {text : List Char} {values : List Int}

/-- Once the place to which a segment refers is known, the sums decide. -/
theorem decodeSegment_of_origin (column : Int) {origin : Option Origin}
    (hvalues : segmentValues text = .ok values)
    (horigin : values.length ≤ 1 ∧ origin = none ∨ 1 < values.length ∧
      decodeOrigin sources names (String.ofList text) values counters
        = .ok (origin, counters.advance values)) :
    (Negative (column + values.getD 0 0) (counters.advance values) →
        decodeSegment sources names column counters text = .error .negativePosition) ∧
      (¬ Negative (column + values.getD 0 0) (counters.advance values) →
        decodeSegment sources names column counters text
          = .ok ({ column := column + values.getD 0 0, origin }, counters.advance values)) := by
  have hhead : values.headD 0 = values.getD 0 0 := by cases values <;> rfl
  rcases horigin with ⟨hshort, rfl⟩ | ⟨hlong, horigin⟩
  · rw [counters.advance_of_length_le_one hshort]
    simp only [decodeSegment, hvalues, bind, Except.bind, if_pos hshort, pure, Except.pure, hhead]
    exact ⟨fun hnegative => if_pos hnegative, fun hnegative => if_neg hnegative⟩
  · simp only [decodeSegment, hvalues, bind, Except.bind, if_neg (Nat.not_le.mpr hlong), horigin,
      hhead]
    exact ⟨fun hnegative => if_pos hnegative, fun hnegative => if_neg hnegative⟩

/-- **What becomes of one segment.** It is no move, and refused for a fault that is contained; or it
takes a sum below zero, and is refused for that; or it is read, and the counters add it up. -/
theorem decodeSegment_cases (sources : Sources) (names : List String) (column : Int)
    (counters : Counters) (text : List Char) :
    ((∃ fault, decodeSegment sources names column counters text = .error fault ∧
        fault.isContained = true) ∧
      ∀ values, segmentValues text = .ok values → ¬ Resolves sources names
        (counters.advance values).source (counters.advance values).name values) ∨
    ∃ values, segmentValues text = .ok values ∧
      Resolves sources names (counters.advance values).source (counters.advance values).name
        values ∧
      (Negative (column + values.getD 0 0) (counters.advance values) ∧
          decodeSegment sources names column counters text = .error .negativePosition ∨
        ¬ Negative (column + values.getD 0 0) (counters.advance values) ∧
          decodeSegment sources names column counters text
            = .ok ({ column := column + values.getD 0 0
                     origin := originOf sources names (counters.advance values) values },
              counters.advance values)) := by
  cases hvalues : segmentValues text with
  | error fault =>
    refine Or.inl ⟨⟨fault, ?_, segmentValues_error hvalues⟩, nofun⟩
    simp only [decodeSegment, hvalues, bind, Except.bind]
  | ok values =>
    have hplace : (Resolves sources names (counters.advance values).source
          (counters.advance values).name values ∧
        let origin := originOf sources names (counters.advance values) values
        values.length ≤ 1 ∧ origin = none ∨ 1 < values.length ∧
          decodeOrigin sources names (String.ofList text) values counters
            = .ok (origin, counters.advance values)) ∨
        (¬ Resolves sources names (counters.advance values).source (counters.advance values).name
          values ∧ 1 < values.length ∧
        ∃ fault, decodeOrigin sources names (String.ofList text) values counters = .error fault ∧
          fault.isContained = true) := by
      by_cases hshort : values.length ≤ 1
      · exact Or.inl ⟨Or.inl hshort, Or.inl ⟨hshort, if_pos hshort⟩⟩
      · have hlong : 1 < values.length := Nat.lt_of_not_le hshort
        exact (decodeOrigin_cases (String.ofList text) counters hlong).imp
          (And.imp_right fun horigin => Or.inr ⟨hlong, horigin⟩)
          (And.imp_right fun hfault => ⟨hlong, hfault⟩)
    rcases hplace with ⟨hresolves, horigin⟩ | ⟨hresolves, hlong, fault, horigin, hfault⟩
    · obtain ⟨hbelow, habove⟩ := decodeSegment_of_origin column hvalues horigin
      refine Or.inr ⟨values, rfl, hresolves, ?_⟩
      by_cases hnegative : Negative (column + values.getD 0 0) (counters.advance values)
      · exact Or.inl ⟨hnegative, hbelow hnegative⟩
      · exact Or.inr ⟨hnegative, habove hnegative⟩
    · refine Or.inl ⟨⟨fault, ?_, hfault⟩, ?_⟩
      · simp only [decodeSegment, hvalues, bind, Except.bind, if_neg (Nat.not_le.mpr hlong),
          horigin]
      · intro other hother
        cases hother
        exact hresolves

end Reading

end Segments

/-! ## Lines -/

section Lines

variable {sources : Sources} {names : List String}

/-- A segment is at most one move. -/
theorem Takes.unique {moves : List Move} {segment : Placed} {move other : Move}
    (h : Takes sources names moves segment move)
    (hother : Takes sources names moves segment other) : move = other := by
  obtain ⟨line, values⟩ := move
  obtain ⟨_, otherValues⟩ := other
  obtain ⟨rfl, hvalues, -⟩ := h
  obtain ⟨rfl, hothers, -⟩ := hother
  cases hvalues.symm.trans hothers
  rfl

section Cons

variable {moves after : List Move} {segment : Placed} {segments : List Placed} {move : Move}

theorem passes_cons_iff (htakes : Takes sources names moves segment move)
    (habove : ¬ Below move.line (moves ++ [move])) :
    Passes sources names moves (segment :: segments) after ↔
      Passes sources names (moves ++ [move]) segments after := by
  constructor
  · rintro (⟨⟩ | ⟨hother, -, hrest⟩)
    rwa [htakes.unique hother]
  · exact .cons htakes habove

theorem goesBelow_cons_iff (htakes : Takes sources names moves segment move)
    (habove : ¬ Below move.line (moves ++ [move])) :
    GoesBelow sources names moves (segment :: segments) ↔
      GoesBelow sources names (moves ++ [move]) segments := by
  constructor
  · rintro (⟨hother, hbelow⟩ | ⟨hother, -, hrest⟩)
    · exact absurd (htakes.unique hother ▸ hbelow) habove
    · rwa [htakes.unique hother]
  · exact .later htakes habove

end Cons

/-- What becomes of one segment, by the moves before it. -/
theorem decodeSegment_moves (sources : Sources) (names : List String) (moves : List Move)
    (segment : Placed) :
    let read := decodeSegment sources names (columnOf segment.line moves) (countersOf moves)
      segment.text
    ((∃ fault, read = .error fault ∧ fault.isContained = true) ∧
      ∀ move, ¬ Takes sources names moves segment move) ∨
    ∃ move, Takes sources names moves segment move ∧
      (Below move.line (moves ++ [move]) ∧ read = .error .negativePosition ∨
        ¬ Below move.line (moves ++ [move]) ∧ read
          = .ok (segmentAfter sources names moves move, countersOf (moves ++ [move]))) := by
  intro read
  have hsums : ∀ values, (countersOf moves).advance values
      = countersOf (moves ++ [⟨segment.line, values⟩]) := fun values =>
    (countersOf_append_singleton moves ⟨segment.line, values⟩).symm
  have hcolumn : ∀ values, columnOf segment.line moves + values.getD 0 0
      = columnOf segment.line (moves ++ [⟨segment.line, values⟩]) := fun values =>
    (columnOf_append_singleton moves ⟨segment.line, values⟩).symm
  rcases decodeSegment_cases sources names (columnOf segment.line moves) (countersOf moves)
      segment.text with ⟨hfault, hnone⟩ | ⟨values, hvalues, hresolves, hread⟩
  · refine Or.inl ⟨hfault, ?_⟩
    rintro ⟨line, values⟩ ⟨rfl, hvalues, hresolves⟩
    refine hnone values hvalues ?_
    rw [hsums]
    exact hresolves
  · rw [hsums] at hresolves hread
    rw [hcolumn] at hread
    exact Or.inr ⟨⟨segment.line, values⟩, ⟨rfl, hvalues, hresolves⟩, hread⟩

section Step

variable {column : Int} {counters next : Counters} {text : List Char} {texts : List (List Char)}
  {first : Segment}

theorem decodeLine_cons_of_error {fault : Fault} (htext : ¬ text.isEmpty = true)
    (h : decodeSegment sources names column counters text = .error fault) :
    decodeLine sources names column counters (text :: texts) = .error fault := by
  simp only [decodeLine, if_neg htext, h, bind, Except.bind]

theorem decodeLine_cons_of_ok (htext : ¬ text.isEmpty = true)
    (h : decodeSegment sources names column counters text = .ok (first, next)) :
    decodeLine sources names column counters (text :: texts)
      = (decodeLine sources names first.column next texts).map (Prod.map (first :: ·) id) := by
  simp only [decodeLine, if_neg htext, h, bind, Except.bind]
  cases decodeLine sources names first.column next texts <;> rfl

theorem decodeLines_cons_of_error {fault : Fault} {line : List Char} {lines : List (List Char)}
    (h : decodeLine sources names 0 counters (Text.splitOn ',' line) = .error fault) :
    decodeLines sources names counters (line :: lines) = .error fault := by
  simp only [decodeLines, h, bind, Except.bind]

theorem decodeLines_cons_of_ok {segments : List Segment} {line : List Char}
    {lines : List (List Char)}
    (h : decodeLine sources names 0 counters (Text.splitOn ',' line) = .ok (segments, next)) :
    decodeLines sources names counters (line :: lines)
      = (decodeLines sources names next lines).map (segments :: ·) := by
  simp only [decodeLines, h, bind, Except.bind]
  cases decodeLines sources names next lines <;> rfl

/-- What is put in front of a result does not change what becomes of it. -/
theorem map_iff {α β : Type} (f : α → β) (result : Except Fault α) :
    (∀ fault, result.map f = .error fault ↔ result = .error fault) ∧
      ∀ whole, result.map f = .ok whole ↔ ∃ rest, whole = f rest ∧ result = .ok rest := by
  cases result with
  | error _ =>
    refine ⟨fun fault => ?_, fun _ => iff_of_false nofun nofun⟩
    simp only [Except.map, Except.error.injEq]
  | ok read =>
    refine ⟨fun _ => iff_of_false nofun nofun, fun whole => ⟨?_, ?_⟩⟩
    · intro h
      cases h
      exact ⟨read, rfl, rfl⟩
    · rintro ⟨rest, rfl, h⟩
      cases h
      rfl

end Step

theorem placedOn_cons (line : Nat) (text : List Char) (texts : List (List Char)) :
    placedOn line (text :: texts)
      = if text.isEmpty then placedOn line texts else ⟨line, text⟩ :: placedOn line texts := by
  cases text with
  | nil => rfl
  | cons c cs => rfl

/-- What is passed adds moves on the lines of its segments. -/
theorem Passes.exists_append {moves after : List Move} {segments : List Placed}
    (h : Passes sources names moves segments after) :
    ∃ more, after = moves ++ more ∧
      ∀ move ∈ more, ∃ segment ∈ segments, segment.line = move.line := by
  induction h with
  | nil moves => exact ⟨[], (List.append_nil moves).symm, List.forall_mem_nil _⟩
  | @cons moves after segment segments move htakes _ _ ih =>
    obtain ⟨more, rfl, hlines⟩ := ih
    refine ⟨move :: more, List.append_cons .. |>.symm, List.forall_mem_cons.mpr
      ⟨⟨segment, List.mem_cons_self, htakes.line.symm⟩, fun other hother => ?_⟩⟩
    obtain ⟨placed, hplaced, hline⟩ := hlines other hother
    exact ⟨placed, List.mem_cons_of_mem segment hplaced, hline⟩

/-- **A line is read segment by segment.** It is refused for a negative position exactly if its
segments go below zero, and read exactly if they are passed, as the segments that their moves make
and with the sums behind them. -/
theorem decodeLine_iff (sources : Sources) (names : List String) (line : Nat)
    (texts : List (List Char)) (moves : List Move) :
    (decodeLine sources names (columnOf line moves) (countersOf moves) texts
        = .error .negativePosition ↔ GoesBelow sources names moves (placedOn line texts)) ∧
      ∀ segments counters, decodeLine sources names (columnOf line moves) (countersOf moves) texts
          = .ok (segments, counters) ↔
        ∃ more, Passes sources names moves (placedOn line texts) (moves ++ more) ∧
          counters = countersOf (moves ++ more) ∧
          segments = segmentsBehind sources names line moves more := by
  induction texts generalizing moves with
  | nil =>
    refine ⟨iff_of_false nofun nofun, fun segments counters => ⟨?_, ?_⟩⟩
    · intro h
      cases h
      exact ⟨[], by rw [List.append_nil]; exact ⟨.nil moves, rfl, rfl⟩⟩
    · rintro ⟨more, hpasses, rfl, rfl⟩
      generalize hafter : moves ++ more = after at hpasses
      cases hpasses
      rw [List.append_right_eq_self] at hafter
      rw [hafter]
      rfl
  | cons text texts ih =>
    rw [placedOn_cons]
    split_ifs with hempty
    · rw [decodeLine, if_pos hempty]
      exact ih moves
    · rcases decodeSegment_moves sources names moves ⟨line, text⟩ with
        ⟨⟨fault, hread, hfault⟩, hnone⟩ | ⟨move, htakes, ⟨hbelow, hread⟩ | ⟨habove, hread⟩⟩
      · rw [decodeLine_cons_of_error hempty hread]
        refine ⟨iff_of_false (fun h => ?_) ?_, fun _ _ => iff_of_false nofun ?_⟩
        · rw [Except.error.inj h] at hfault
          cases hfault
        · rintro (⟨htakes, -⟩ | ⟨htakes, -, -⟩) <;> exact hnone _ htakes
        · rintro ⟨more, hpasses, -⟩
          obtain _ | ⟨htakes, -, -⟩ := hpasses
          exact hnone _ htakes
      · rw [decodeLine_cons_of_error hempty hread]
        refine ⟨iff_of_true rfl (.here htakes hbelow), fun _ _ => iff_of_false nofun ?_⟩
        rintro ⟨more, hpasses, -⟩
        obtain _ | ⟨hother, habove, -⟩ := hpasses
        exact habove (htakes.unique hother ▸ hbelow)
      · obtain rfl : move.line = line := htakes.line
        rw [decodeLine_cons_of_ok hempty hread]
        obtain ⟨hnegative, hpasses⟩ := ih (moves ++ [move])
        obtain ⟨herror, hok⟩ := map_iff (Prod.map (segmentAfter sources names moves move :: ·) id)
          (decodeLine sources names (columnOf move.line (moves ++ [move]))
            (countersOf (moves ++ [move])) texts)
        have hcons : ∀ more, moves ++ [move] ++ more = moves ++ move :: more := fun more =>
          (List.append_cons moves move more).symm
        have hsegments : ∀ more, segmentsBehind sources names move.line moves (move :: more)
            = segmentAfter sources names moves move
              :: segmentsBehind sources names move.line (moves ++ [move]) more := fun more =>
          if_pos rfl
        rw [goesBelow_cons_iff htakes habove]
        refine ⟨(herror _).trans hnegative, fun segments counters =>
          (hok (segments, counters)).trans ?_⟩
        simp only [passes_cons_iff htakes habove, Prod.exists, hpasses, hcons]
        constructor
        · rintro ⟨rest, last, hread, more, hmore, rfl, rfl⟩
          cases hread
          exact ⟨move :: more, hmore, rfl, (hsegments more).symm⟩
        · rintro ⟨more, hmore, rfl, rfl⟩
          obtain ⟨rest, hrest, -⟩ := hmore.exists_append
          rw [hcons, List.append_cancel_left_eq] at hrest
          subst hrest
          exact ⟨_, _, congrArg (·, _) (hsegments rest), rest, hmore, rfl, rfl⟩

/-! ## All lines -/

theorem placedFrom_cons (first : Nat) (line : List Char) (lines : List (List Char)) :
    placedFrom first (line :: lines)
      = placedOn first (Text.splitOn ',' line) ++ placedFrom (first + 1) lines := by
  rw [placedFrom, List.zipIdx_cons, List.flatMap_cons]
  rfl

section Rows

variable {moves after : List Move} {front back : List Placed}

theorem Passes.unique {other : List Move} (h : Passes sources names moves front after)
    (hother : Passes sources names moves front other) : after = other := by
  induction h with
  | nil =>
    cases hother
    rfl
  | cons htakes habove _ ih => exact ih ((passes_cons_iff htakes habove).mp hother)

theorem passes_append_iff (h : Passes sources names moves front after) {final : List Move} :
    Passes sources names moves (front ++ back) final ↔ Passes sources names after back final := by
  induction h with
  | nil => rfl
  | cons htakes habove _ ih => rw [List.cons_append, passes_cons_iff htakes habove, ih]

theorem goesBelow_append_iff (h : Passes sources names moves front after) :
    GoesBelow sources names moves (front ++ back) ↔ GoesBelow sources names after back := by
  induction h with
  | nil => rfl
  | cons htakes habove _ ih => rw [List.cons_append, goesBelow_cons_iff htakes habove, ih]

/-- What is passed as a whole is passed at the front. -/
theorem Passes.of_append {final : List Move}
    (h : Passes sources names moves (front ++ back) final) :
    ∃ after, Passes sources names moves front after := by
  induction front generalizing moves with
  | nil => exact ⟨moves, .nil moves⟩
  | cons segment front ih =>
    obtain _ | ⟨htakes, habove, hrest⟩ := h
    obtain ⟨after, hafter⟩ := ih hrest
    exact ⟨after, .cons htakes habove hafter⟩

/-- What goes below zero does so at the front, or the front is passed. -/
theorem GoesBelow.of_append (h : GoesBelow sources names moves (front ++ back)) :
    GoesBelow sources names moves front ∨ ∃ after, Passes sources names moves front after := by
  induction front generalizing moves with
  | nil => exact Or.inr ⟨moves, .nil moves⟩
  | cons segment front ih =>
    obtain ⟨htakes, hbelow⟩ | ⟨htakes, habove, hrest⟩ := h
    · exact Or.inl (.here htakes hbelow)
    · exact (ih hrest).imp (.later htakes habove)
        fun ⟨after, hafter⟩ => ⟨after, .cons htakes habove hafter⟩

theorem GoesBelow.append (h : GoesBelow sources names moves front) (back : List Placed) :
    GoesBelow sources names moves (front ++ back) := by
  induction h with
  | here htakes hbelow => exact .here htakes hbelow
  | later htakes habove _ ih => exact .later htakes habove ih

/-- The moves that are added are on the lines of the segments. -/
theorem Passes.line_of_mem {more : List Move}
    (h : Passes sources names moves front (moves ++ more)) {move : Move} (hmove : move ∈ more) :
    ∃ segment ∈ front, segment.line = move.line := by
  obtain ⟨other, hother, hlines⟩ := h.exists_append
  rw [List.append_cancel_left_eq] at hother
  exact hlines move (hother ▸ hmove)

end Rows

theorem line_of_mem_placedOn {line : Nat} {texts : List (List Char)} {segment : Placed}
    (h : segment ∈ placedOn line texts) : segment.line = line := by
  obtain ⟨text, -, rfl⟩ := List.mem_map.mp h
  rfl

theorem le_of_mem_placedFrom {first : Nat} {lines : List (List Char)} {segment : Placed}
    (h : segment ∈ placedFrom first lines) : first ≤ segment.line := by
  obtain ⟨⟨line, number⟩, hline, hsegment⟩ := List.mem_flatMap.mp h
  rw [line_of_mem_placedOn hsegment]
  exact (List.mem_zipIdx hline).1

/-- The moves of a line are on it. -/
theorem Passes.line_eq {moves more : List Move} {line : Nat} {texts : List (List Char)}
    (h : Passes sources names moves (placedOn line texts) (moves ++ more)) :
    ∀ move ∈ more, move.line = line := by
  intro move hmove
  obtain ⟨segment, hsegment, hsame⟩ := h.line_of_mem hmove
  rw [← hsame, line_of_mem_placedOn hsegment]

/-- The moves of the lines from one on are on none before it. -/
theorem Passes.le_line {moves more : List Move} {first : Nat} {lines : List (List Char)}
    (h : Passes sources names moves (placedFrom first lines) (moves ++ more)) :
    ∀ move ∈ more, first ≤ move.line := by
  intro move hmove
  obtain ⟨segment, hsegment, hsame⟩ := h.line_of_mem hmove
  exact hsame ▸ le_of_mem_placedFrom hsegment

/-- The segments on a line and on the lines behind it, by the moves of each. -/
theorem map_segmentsBehind_append {first count : Nat} {moves more later : List Move}
    (hmore : ∀ move ∈ more, move.line = first) (hlater : ∀ move ∈ later, first < move.line) :
    (List.range' first (count + 1)).map
        (fun line => segmentsBehind sources names line moves (more ++ later))
      = segmentsBehind sources names first moves more
        :: (List.range' (first + 1) count).map
          fun line => segmentsBehind sources names line (moves ++ more) later := by
  rw [List.range'_succ, List.map_cons]
  simp only [segmentsBehind_append]
  congr 1
  · rw [segmentsBehind_of_ne _ fun move hmove => Nat.ne_of_gt (hlater move hmove), List.append_nil]
  · refine List.map_congr_left fun line hline => ?_
    have hbehind : first < line := (List.mem_range'_1.mp hline).1
    rw [segmentsBehind_of_ne moves fun move hmove => hmore move hmove ▸ Nat.ne_of_lt hbehind,
      List.nil_append]

/-- **The mappings are read line by line**, with the sums of all lines before, as the segments that
their moves make on each line. -/
theorem decodeLines_iff (lines : List (List Char)) {first : Nat} {moves : List Move}
    (hfresh : ∀ move ∈ moves, move.line < first) :
    (decodeLines sources names (countersOf moves) lines = .error .negativePosition ↔
        GoesBelow sources names moves (placedFrom first lines)) ∧
      ∀ rows, decodeLines sources names (countersOf moves) lines = .ok rows ↔
        ∃ more, Passes sources names moves (placedFrom first lines) (moves ++ more) ∧
          rows = (List.range' first lines.length).map
            fun line => segmentsBehind sources names line moves more := by
  induction lines generalizing first moves with
  | nil =>
    refine ⟨iff_of_false nofun nofun, fun rows => ⟨fun h => ?_, ?_⟩⟩
    · cases h
      exact ⟨[], by rw [List.append_nil]; exact ⟨.nil moves, rfl⟩⟩
    · rintro ⟨more, -, rfl⟩
      rfl
  | cons line lines ih =>
    obtain ⟨hnegative, hpasses⟩ :=
      decodeLine_iff sources names first (Text.splitOn ',' line) moves
    rw [columnOf_of_fresh hfresh] at hnegative hpasses
    rw [placedFrom_cons]
    cases hline : decodeLine sources names 0 (countersOf moves) (Text.splitOn ',' line) with
    | error fault =>
      rw [hline] at hnegative hpasses
      rw [decodeLines_cons_of_error hline]
      have hnone : ∀ after, ¬ Passes sources names moves (placedOn first (Text.splitOn ',' line))
          after := by
        intro after hafter
        obtain ⟨more, rfl, -⟩ := hafter.exists_append
        cases (hpasses _ _).mpr ⟨more, hafter, rfl, rfl⟩
      refine ⟨Iff.trans (Iff.trans (by simp) hnegative) ⟨fun h => h.append _, fun h => ?_⟩,
        fun rows => iff_of_false nofun ?_⟩
      · exact h.of_append.resolve_right fun ⟨after, hafter⟩ => hnone after hafter
      · rintro ⟨more, hfinal, -⟩
        obtain ⟨after, hafter⟩ := hfinal.of_append
        exact hnone after hafter
    | ok read =>
      obtain ⟨segments, counters⟩ := read
      obtain ⟨more, hmore, rfl, rfl⟩ := (hpasses segments counters).mp hline
      have hpast : ∀ move ∈ moves ++ more, move.line < first + 1 := by
        intro move hmove
        rcases List.mem_append.mp hmove with hbefore | hadded
        · exact Nat.lt_succ_of_lt (hfresh move hbefore)
        · exact Nat.lt_succ_of_le (Nat.le_of_eq (hmore.line_eq move hadded))
      obtain ⟨hrest, hread⟩ := ih hpast
      obtain ⟨herror, hok⟩ := map_iff (segmentsBehind sources names first moves more :: ·)
        (decodeLines sources names (countersOf (moves ++ more)) lines)
      rw [decodeLines_cons_of_ok hline, goesBelow_append_iff hmore]
      refine ⟨(herror _).trans hrest, fun rows => (hok rows).trans ?_⟩
      simp only [passes_append_iff hmore, hread]
      constructor
      · rintro ⟨_, rfl, later, hlater, rfl⟩
        exact ⟨more ++ later, (List.append_assoc moves more later) ▸ hlater,
          (map_segmentsBehind_append hmore.line_eq hlater.le_line).symm⟩
      · rintro ⟨final, hfinal, rfl⟩
        obtain ⟨later, hlater, -⟩ := hfinal.exists_append
        rw [hlater] at hfinal
        rw [List.append_assoc, List.append_cancel_left_eq] at hlater
        subst hlater
        exact ⟨_, map_segmentsBehind_append hmore.line_eq hfinal.le_line, later, hfinal, rfl⟩

/-- Every fault of a line is a negative position or contained. -/
theorem decodeLine_error {texts : List (List Char)} {column : Int} {counters : Counters}
    {fault : Fault} (h : decodeLine sources names column counters texts = .error fault) :
    fault = .negativePosition ∨ fault.isContained = true := by
  induction texts generalizing column counters with
  | nil => cases h
  | cons text texts ih =>
    by_cases hempty : text.isEmpty = true
    · rw [decodeLine, if_pos hempty] at h
      exact ih h
    · rcases decodeSegment_cases sources names column counters text with
        ⟨⟨other, hread, hcontained⟩, -⟩ | ⟨values, -, -, ⟨-, hread⟩ | ⟨-, hread⟩⟩
      · rw [decodeLine_cons_of_error hempty hread] at h
        cases h
        exact Or.inr hcontained
      · rw [decodeLine_cons_of_error hempty hread] at h
        cases h
        exact Or.inl rfl
      · rw [decodeLine_cons_of_ok hempty hread] at h
        exact ih (((map_iff _ _).1 _).mp h)

/-- Every fault of the mappings is a negative position or contained. -/
theorem decodeLines_error {lines : List (List Char)} {counters : Counters} {fault : Fault}
    (h : decodeLines sources names counters lines = .error fault) :
    fault = .negativePosition ∨ fault.isContained = true := by
  induction lines generalizing counters with
  | nil => cases h
  | cons line lines ih =>
    cases hline : decodeLine sources names 0 counters (Text.splitOn ',' line) with
    | error other =>
      rw [decodeLines_cons_of_error hline] at h
      cases h
      exact decodeLine_error hline
    | ok read =>
      rw [decodeLines_cons_of_ok hline] at h
      exact ih (((map_iff _ _).1 _).mp h)

end Lines

/-- **The mappings are refused for a negative position exactly if they go below zero.** -/
theorem decodeLines_eq_negative_iff (sources : Sources) (names : List String) (mappings : String) :
    decodeLines sources names {} (Text.splitOn ';' mappings.toList) = .error .negativePosition ↔
      GoesBelow sources names [] (placed mappings) := by
  have hfresh : ∀ move ∈ ([] : List Move), move.line < 0 := fun move hmove => nomatch hmove
  exact (decodeLines_iff (Text.splitOn ';' mappings.toList) hfresh).1

end VmScan.SourceMap
