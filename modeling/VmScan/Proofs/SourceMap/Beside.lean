import VmScan.Proofs.Json.Limits
import VmScan.Proofs.SourceMap.Counters
import VmScan.Source

/-!
# The map beside a script

A script that is readable as it is comes with the map beside its file
(`PrebeautifiedSource.beautify`). Most maps that cannot be used cost a warning, and some cost the
script. Which ones these are depends on the decoder of the mappings; with `decodeMappings`, they are
the maps whose mappings go below zero, apart from those that are nested too deeply whatever the
decoder. Looking for the map may fail as well, and that costs the script too.

* `HasMappings` — a text that is an object with mappings and without sections.
* `FitsWriting` — members that are not nested too deeply to be written for the decoder.
* `Spills` — a text whose fault is not contained: it is nested too deeply to be read or to be
  written, or the decoder refuses its mappings with such a fault.
* `SpillsBeside` — what stands beside the script is a file with such a text.
* `GoesNegative` — a map with sources and names whose mappings go below zero.

Results:
* `ofTextWith_spills_iff`: exactly the texts that spill have a fault that is not contained.
* `readMap_cases`: what becomes of the bytes of a map.
* `decodeMappings_error_cases`, `decodeMappings_error`: the faults of the mappings.
* `readWith_asIs_cases`: the script is read, with its text and with the map or without it, unless
  what stands beside it spills or cannot be looked for.
-/

namespace VmScan.SourceMap

open VmScan.Json

/-! ## Texts -/

/-- The text is an object with mappings and without sections. -/
structure HasMappings (runtime : Runtime) (text : List Char) (members : Members)
    (mappings : String) : Prop where
  decode_eq : decode runtime text = .ok (.object members)
  plain : get? members "sections" = none
  mappings_eq : get? members "mappings" = some (.string mappings)

/-- The members, with the parts that a map may leave out, are not nested too deeply to be
written. -/
def FitsWriting (runtime : Runtime) (members : Members) : Prop :=
  (Value.object (completed members)).fits runtime.writeDepth = true

/-- The text is no map, and for a fault that is not contained. -/
inductive Spills (runtime : Runtime) (decoder : Decoder) (text : List Char) : Prop where
  | tooDeep {container : Container} (h : MeetsLimit runtime text (.tooDeep container))
  | tooDeepToWrite {members : Members} {mappings : String}
      (hmap : HasMappings runtime text members mappings) (h : ¬ FitsWriting runtime members)
  | refused {members : Members} {mappings : String} {fault : Fault}
      (hmap : HasMappings runtime text members mappings) (hfits : FitsWriting runtime members)
      (h : decoder members mappings = .error fault) (hcontained : fault.isContained = false)

section Texts

variable {runtime : Runtime} {members : Members} {mappings : String} (decoder : Decoder)
  (hplain : get? members "sections" = none)
  (hmappings : get? members "mappings" = some (.string mappings))
include hplain hmappings

/-- A map that has mappings is what the decoder makes of them. -/
theorem ofMembers_eq (hfits : FitsWriting runtime members) :
    ofMembers runtime decoder members = decoder members mappings := by
  rw [FitsWriting] at hfits
  simp only [ofMembers, hplain, hmappings, hfits]
  rfl

/-- A map that is nested too deeply is not written for the decoder. -/
theorem ofMembers_tooDeep (h : ¬ FitsWriting runtime members) :
    ofMembers runtime decoder members = .error .tooDeepToWrite := by
  rw [FitsWriting, Bool.not_eq_true] at h
  simp only [ofMembers, hplain, hmappings, h]
  rfl

end Texts

/-- What becomes of the members of a map: it has no mappings, or the decoder decides. -/
theorem ofMembers_cases (runtime : Runtime) (decoder : Decoder) (members : Members) :
    (∃ fault, ofMembers runtime decoder members = .error fault ∧ fault.isContained = true) ∨
      ∃ mappings, get? members "sections" = none ∧
        get? members "mappings" = some (.string mappings) := by
  unfold ofMembers
  cases get? members "sections" with
  | some value => exact Or.inl ⟨.sections, rfl, rfl⟩
  | none =>
    simp only [Option.isSome_none, Bool.false_eq_true, if_false]
    split
    · next mappings hmappings => exact Or.inr ⟨mappings, trivial, hmappings⟩
    · exact Or.inl ⟨.noMappings, rfl, rfl⟩

/-- **Exactly the texts that spill have a fault that is not contained.** -/
theorem ofTextWith_spills_iff (runtime : Runtime) (decoder : Decoder) (text : String) :
    (∃ fault, ofTextWith runtime decoder text = .error fault ∧ fault.isContained = false) ↔
      Spills runtime decoder text.toList := by
  constructor
  · rintro ⟨fault, h, hcontained⟩
    unfold ofTextWith at h
    split at h
    · next stop hstop =>
      cases h
      cases stop with
      | tooDeep container => exact .tooDeep (decode_limit_iff.mp ⟨hstop, trivial⟩)
      | malformed | tooManyDigits => cases hcontained
    · next members hdecode =>
      rcases ofMembers_cases runtime decoder members with
        ⟨other, hother, hsafe⟩ | ⟨mappings, hplain, hmappings⟩
      · rw [h] at hother
        cases hother
        rw [hcontained] at hsafe
        cases hsafe
      · by_cases hfits : FitsWriting runtime members
        · rw [ofMembers_eq decoder hplain hmappings hfits] at h
          exact .refused ⟨hdecode, hplain, hmappings⟩ hfits h hcontained
        · exact .tooDeepToWrite ⟨hdecode, hplain, hmappings⟩ hfits
    · cases h
      cases hcontained
  · intro h
    cases h with
    | @tooDeep container hdeep =>
      refine ⟨.tooDeep container, ?_, rfl⟩
      simp only [ofTextWith, (decode_limit_iff.mpr hdeep).1]
      rfl
    | tooDeepToWrite hmap h =>
      refine ⟨.tooDeepToWrite, ?_, rfl⟩
      rw [ofTextWith, hmap.decode_eq]
      exact ofMembers_tooDeep decoder hmap.plain hmap.mappings_eq h
    | @refused members mappings fault hmap hfits h hcontained =>
      refine ⟨fault, ?_, hcontained⟩
      rw [ofTextWith, hmap.decode_eq]
      exact (ofMembers_eq decoder hmap.plain hmap.mappings_eq hfits).trans h

/-! ## Mappings -/

/-- The map has sources and names, and its mappings go below zero. -/
def GoesNegative (members : Members) (mappings : String) : Prop :=
  ∃ names sources, namesOf (partOf members "names") = .ok names ∧
    sourcesOf ((get? members "sourceRoot").getD .null) (partOf members "sources") = .ok sources ∧
    GoesBelow sources names [] (placed mappings)

section Mappings

variable {members : Members} {mappings : String} {fault : Fault} {names : List String}
  {sources : Sources}

theorem goesNegative_iff (hnames : namesOf (partOf members "names") = .ok names)
    (hsources : sourcesOf ((get? members "sourceRoot").getD .null) (partOf members "sources")
      = .ok sources) :
    GoesNegative members mappings ↔ GoesBelow sources names [] (placed mappings) := by
  constructor
  · rintro ⟨_, _, hothers, hother, h⟩
    rw [hnames] at hothers
    rw [hsources] at hother
    cases hothers
    cases hother
    exact h
  · exact fun h => ⟨names, sources, hnames, hsources, h⟩

/-- Mappings are refused for their names, for their sources or for a segment. -/
theorem decodeMappings_error_cases (h : decodeMappings members mappings = .error fault) :
    (fault.isContained = true ∧ ¬ GoesNegative members mappings) ∨
      ∃ names sources, namesOf (partOf members "names") = .ok names ∧
        sourcesOf ((get? members "sourceRoot").getD .null) (partOf members "sources")
          = .ok sources ∧
        decodeLines sources names {} (Text.splitOn ';' mappings.toList) = .error fault := by
  unfold decodeMappings at h
  cases hnames : namesOf (partOf members "names") with
  | error cause =>
    rw [hnames] at h
    cases h
    refine Or.inl ⟨rfl, ?_⟩
    rintro ⟨names, sources, hother, -⟩
    rw [hnames] at hother
    cases hother
  | ok names =>
    rw [hnames] at h
    cases hsources : sourcesOf ((get? members "sourceRoot").getD .null)
        (partOf members "sources") with
    | error cause =>
      simp only [hsources] at h
      cases h
      refine Or.inl ⟨rfl, ?_⟩
      rintro ⟨_, sources, -, hother, -⟩
      rw [hsources] at hother
      cases hother
    | ok sources =>
      refine Or.inr ⟨names, sources, rfl, rfl, ?_⟩
      simp only [hsources] at h
      cases hlines : decodeLines sources names {} (Text.splitOn ';' mappings.toList) with
      | error other =>
        simp only [Except.mapError, bind, Except.bind, hlines] at h
        cases h
        rfl
      | ok lines =>
        simp only [Except.mapError, bind, Except.bind, hlines] at h
        cases h

/-- Every fault of the mappings is contained, but that of mappings that go below zero. -/
theorem decodeMappings_error (h : decodeMappings members mappings = .error fault) :
    (fault.isContained = false ↔ fault = .negativePosition) ∧
      (fault = .negativePosition ↔ GoesNegative members mappings) := by
  have hcontains : fault.isContained = true →
      ¬ fault.isContained = false ∧ fault ≠ .negativePosition := by
    intro hcontained
    refine ⟨by rw [hcontained]; decide, ?_⟩
    rintro rfl
    cases hcontained
  rcases decodeMappings_error_cases h with
    ⟨hcontained, hnone⟩ | ⟨names, sources, hnames, hsources, hlines⟩
  · obtain ⟨hsafe, hother⟩ := hcontains hcontained
    exact ⟨iff_of_false hsafe hother, iff_of_false hother hnone⟩
  · refine ⟨?_, ?_⟩
    · rcases decodeLines_error hlines with rfl | hcontained
      · exact iff_of_true rfl rfl
      · obtain ⟨hsafe, hother⟩ := hcontains hcontained
        exact iff_of_false hsafe hother
    · rw [goesNegative_iff hnames hsources, ← decodeLines_eq_negative_iff, hlines,
        Except.error.injEq]

end Mappings

end VmScan.SourceMap

namespace VmScan.Source

open VmScan.SourceMap

/-! ## Files -/

/-- A file stands beside the script whose text spills. -/
def SpillsBeside (runtime : Json.Runtime) (decoder : Decoder) (beside : Entry) : Prop :=
  ∃ bytes cs, beside = .file bytes ∧ Text.Utf8.decode bytes = .ok cs ∧
    Spills runtime decoder (Text.unifyLineEnds cs)

/-- What becomes of the bytes of a map: it is decoded, or given up with a warning, or its text
spills. -/
theorem readMap_cases (runtime : Json.Runtime) (decoder : Decoder) (path : Path)
    (bytes : List UInt8) :
    (¬ SpillsBeside runtime decoder (.file bytes) ∧
        ((∃ mapping, readMap runtime decoder path bytes = .ok (some mapping, [])) ∨
          readMap runtime decoder path bytes = .ok (none, [mapWarning path]))) ∨
      SpillsBeside runtime decoder (.file bytes) ∧
        ∃ fault, readMap runtime decoder path bytes = .error fault ∧
          fault.isContained = false := by
  unfold readMap
  cases hdecode : Text.Utf8.decode bytes with
  | error fault =>
    refine Or.inl ⟨?_, Or.inr rfl⟩
    rintro ⟨_, cs, hfile, hcs, -⟩
    cases hfile
    rw [hdecode] at hcs
    cases hcs
  | ok cs =>
    have hspills : SpillsBeside runtime decoder (.file bytes) ↔
        ∃ fault, ofTextWith runtime decoder (String.ofList (Text.unifyLineEnds cs)) = .error fault ∧
          fault.isContained = false := by
      rw [ofTextWith_spills_iff, String.toList_ofList]
      constructor
      · rintro ⟨_, other, hfile, hother, h⟩
        cases hfile
        rw [hdecode] at hother
        cases hother
        exact h
      · exact fun h => ⟨bytes, cs, rfl, hdecode, h⟩
    rw [hspills]
    cases hmap : ofTextWith runtime decoder (String.ofList (Text.unifyLineEnds cs)) with
    | ok mapping => exact Or.inl ⟨nofun, Or.inl ⟨mapping, by simp only [hmap]⟩⟩
    | error fault =>
      cases hcontained : fault.isContained with
      | true =>
        refine Or.inl ⟨?_, Or.inr (by simp only [hmap, hcontained, if_true])⟩
        rintro ⟨other, hother, hnot⟩
        cases hother
        rw [hcontained] at hnot
        cases hnot
      | false =>
        refine Or.inr ⟨⟨fault, rfl, hcontained⟩, fault, ?_, hcontained⟩
        simp only [hmap, hcontained, Bool.false_eq_true, if_false]

/-- What is no readable file does not spill. -/
theorem not_spillsBeside {runtime : Json.Runtime} {decoder : Decoder} {beside : Entry}
    (h : ∀ bytes, beside ≠ .file bytes) : ¬ SpillsBeside runtime decoder beside :=
  fun ⟨bytes, _, hfile, _⟩ => h bytes hfile

/-- **A script is read, unless what stands beside it spills or cannot be looked for.** Whatever the
file of a script that is readable as it is holds, whatever stands beside it, and whatever the
decoder makes of mappings, the script is read with the text of its file: with the decoded map, with
a warning and without a map, or, where no file stands beside it, without both. There is no script
for a map that is nested too deeply, to be read or to be written, for one that the decoder refuses
with a fault that is not contained, and where looking for the map fails, and only then. Of the
faults of `decodeMappings`, with which `Source.read` reads a map, only that of mappings which go
below zero is not contained. -/
theorem readWith_asIs_cases (runtime : Json.Runtime) (path : Path) (bytes : List UInt8)
    (beside : Entry) :
    (∀ decoder : Decoder,
      (¬ SpillsBeside runtime decoder beside ∧ beside.lookError? = none ∧ ∃ map warnings,
          readWith runtime decoder .asIs path (.file bytes) beside
            = .ok ({ code := textOf bytes, map }, warnings) ∧
          (map.isSome = true ∧ warnings = [] ∨
            map = none ∧ beside.isFile = true ∧ warnings = [mapWarning path] ∨
            map = none ∧ beside.isFile = false ∧ warnings = [])) ∨
        (SpillsBeside runtime decoder beside ∧ ∃ fault,
          readWith runtime decoder .asIs path (.file bytes) beside = .error (.map fault) ∧
            fault.isContained = false) ∨
        ∃ error, beside.lookError? = some error ∧
          readWith runtime decoder .asIs path (.file bytes) beside
            = .error (.file (.system (path.withSuffix mapSuffix) error))) ∧
      ∀ members mappings fault, decodeMappings members mappings = .error fault →
        (fault.isContained = false ↔ fault = .negativePosition) ∧
          (fault = .negativePosition ↔ GoesNegative members mappings) := by
  refine ⟨fun decoder => ?_, fun members mappings fault => decodeMappings_error⟩
  simp only [readWith, Entry.content, withMap]
  cases hlook : beside.lookError? with
  | some error => exact Or.inr (Or.inr ⟨error, rfl, rfl⟩)
  | none =>
    cases beside with
    | file mapBytes =>
      rcases readMap_cases runtime decoder path mapBytes with
        ⟨hspills, ⟨mapping, hmap⟩ | hmap⟩ | ⟨hspills, fault, hmap, hcontained⟩
      · refine Or.inl ⟨hspills, rfl, some mapping, [], ?_, Or.inl ⟨rfl, rfl⟩⟩
        simp only [hmap]
      · refine Or.inl ⟨hspills, rfl, none, [mapWarning path], ?_, Or.inr (Or.inl ⟨rfl, rfl, rfl⟩)⟩
        simp only [hmap]
      · refine Or.inr (Or.inl ⟨hspills, fault, ?_, hcontained⟩)
        simp only [hmap]
    | closed error =>
      exact Or.inl ⟨not_spillsBeside nofun, rfl, none, [mapWarning path], rfl,
        Or.inr (Or.inl ⟨rfl, rfl, rfl⟩)⟩
    | missing | blocked | directory | hidden =>
      exact Or.inl ⟨not_spillsBeside nofun, rfl, none, [], rfl, Or.inr (Or.inr ⟨rfl, rfl, rfl⟩)⟩

/-- A map whose only segment lies one column left of its line. -/
def leftOfLine : String :=
  "\x7b\"version\":3,\"sources\":[\"a\"],\"names\":[],\"mappings\":\"D\"\x7d"

/-- With such a map beside it, a script is not read. -/
theorem read_asIs_leftOfLine : ∃ fault,
    Source.read .usual .asIs (Path.ofText "a.js") (.file (Text.Utf8.encode ['a']))
      (.file (Text.Utf8.encode leftOfLine.toList)) = .error (.map fault) := by
  have hstops : (match Source.read .usual .asIs (Path.ofText "a.js")
      (.file (Text.Utf8.encode ['a'])) (.file (Text.Utf8.encode leftOfLine.toList)) with
      | .error (.map _) => true
      | _ => false) = true := by
    decide +kernel
  split at hstops
  · next fault hread => exact ⟨fault, hread⟩
  · cases hstops

end VmScan.Source
