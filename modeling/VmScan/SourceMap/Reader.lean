import VmScan.Json.Reader
import VmScan.Json.Shown
import VmScan.SourceMap.Basic
import VmScan.SourceMap.Vlq
import VmScan.Text.Lines

/-!
# Reading source maps

* `Fault` — why a text is no source map, with its message.
* `Fault.isContained` — whether a reader that can do without a map goes on without it.
* `decodeSegment`, `decodeLines` — the segments of the mappings. Columns start again on each
  line; the counters for source, line, column and name run on through all lines.
* `Decoder`, `decodeMappings` — from the members of a map and its mappings to the map.
* `ofMembers` — the map with the given members (`from_dict`). They are written, with empty sources
  and names where they give none, and handed to the decoder.
* `ofText` — the map that a text writes (`from_json`).
-/

namespace VmScan.SourceMap

open VmScan.Json

/-! ## Faults -/

/-- What makes the parts of a map unusable. -/
inductive Malformed where
  | beyondDigits
  | unsized (kind : String)
  | notIterable (kind : String)
  | rootNotText (kind : String)
  | sourceNotText (kind : String)
  | noSuchKey (index : Int)
  deriving DecidableEq, Repr

/-- The cause as a message shows it. -/
def Malformed.shown : Malformed → String
  | .beyondDigits => "IndexError('list index out of range')"
  | .unsized kind => s!"TypeError(\"object of type '{kind}' has no len()\")"
  | .notIterable kind => s!"TypeError(\"'{kind}' object is not iterable\")"
  | .rootNotText kind =>
    s!"TypeError('expected str, bytes or os.PathLike object, not {kind}')"
  | .sourceNotText kind =>
    s!"TypeError(\"join() argument must be str, bytes, or os.PathLike object, not '{kind}'\")"
  | .noSuchKey index => s!"KeyError({index})"

/-- Why a text is no source map. -/
inductive Fault where
  | notJson (fault : Json.Fault) (position : Position)
  | tooManyDigits (count : Nat)
  | tooDeep (container : Container)
  | notObject
  | sections
  | noMappings
  | tooDeepToWrite
  | malformed (cause : Malformed)
  | unfinishedSegment
  | sourceOutOfRange (segment : String) (index : Int) (count : Nat)
  | nameOutOfRange (segment : String) (index : Int) (count : Nat)
  | shortSegment (segment : String) (values : List Int)
  | negativePosition
  deriving DecidableEq, Repr

/-- The message of a fault. -/
def Fault.message : Fault → String
  | .notJson fault position => faultMessage fault position
  | .tooManyDigits count => Number.tooManyDigitsMessage count
  | .tooDeep container => tooDeepMessage container
  | .notObject => "source map must be a JSON object"
  | .sections => "indexed source maps are not supported"
  | .noMappings => "source map has no 'mappings' string"
  | .tooDeepToWrite => tooDeepToWriteMessage
  | .malformed cause => s!"malformed source map: {cause.shown}"
  | .unfinishedSegment => "leftover cur/shift in vlq decode"
  | .sourceOutOfRange segment index count =>
    s!"Segment {segment} references source {index}; there are {count} sources"
  | .nameOutOfRange segment index count =>
    s!"Segment {segment} references name {index}; there are {count} names"
  | .shortSegment segment values =>
    let listed := ", ".intercalate (values.map toString)
    s!"Invalid segment {segment}, parsed as [{listed}]"
  | .negativePosition => "'AssertionError' object has no attribute 'message'"

/-- Whether a reader that can do without a map goes on without it: all faults but a negative
position and too deep a nesting, in reading the text or in writing its value. -/
def Fault.isContained : Fault → Bool
  | .negativePosition => false
  | .tooDeep _ => false
  | .tooDeepToWrite => false
  | _ => true

/-! ## Sources and names -/

/-- The sources to which segments refer by number. -/
inductive Sources where
  | listed (items : List Value)
  | keyed (count : Nat)
  | unsized (kind : String)

/-- The path with the given root in front, unless it starts at a root of its own. -/
def joinPath (root path : String) : String :=
  if path.toList.head? = some '/' then path
  else if root = "" || root.toList.getLast? = some '/' then root ++ path
  else root ++ "/" ++ path

/-- A source with the root in front. -/
def joinSource (root source : Value) : Except Malformed Value :=
  match root, source with
  | .string root, .string path => .ok (.string (joinPath root path))
  | .string _, source => .error (.sourceNotText source.kind)
  | root, _ => .error (.rootNotText root.kind)

/-- The sources with the root in front. -/
def joinSources (root : Value) : List Value → Except Malformed (List Value)
  | [] => .ok []
  | source :: sources => do
    let joined ← joinSource root source
    let rest ← joinSources root sources
    return joined :: rest

/-- The sources of a map, with their root. -/
def sourcesOf (root sources : Value) : Except Malformed Sources :=
  match root with
  | .null =>
    match sources with
    | .object members => .ok (.keyed members.length)
    | other =>
      match other.elements? with
      | some items => .ok (.listed items)
      | none => .ok (.unsized other.kind)
  | root =>
    match sources.elements? with
    | some items => (joinSources root items).map .listed
    | none => .error (.notIterable sources.kind)

/-- The names of a map. -/
def namesOf (names : Value) : Except Malformed (List String) :=
  match names.elements? with
  | some items => .ok (items.map (·.plain))
  | none => .error (.notIterable names.kind)

/-- The item at a number that may lie outside the list. -/
def itemAt? {α : Type} (items : List α) (index : Int) : Option α :=
  if index < 0 then none else items[index.toNat]?

/-- The source with the given number. -/
def sourceAt (sources : Sources) (segment : String) (index : Int) : Except Fault Value :=
  match sources with
  | .unsized kind => .error (.malformed (.unsized kind))
  | .keyed count =>
    if 0 ≤ index ∧ index < count then .error (.malformed (.noSuchKey index))
    else .error (.sourceOutOfRange segment index count)
  | .listed items =>
    match itemAt? items index with
    | some source => .ok source
    | none => .error (.sourceOutOfRange segment index items.length)

/-- The name with the given number. -/
def nameAt (names : List String) (segment : String) (index : Int) : Except Fault String :=
  match itemAt? names index with
  | some name => .ok name
  | none => .error (.nameOutOfRange segment index names.length)

/-! ## Segments -/

/-- The numbers that run on from segment to segment. -/
structure Counters where
  source : Int := 0
  line : Int := 0
  column : Int := 0
  name : Int := 0
  deriving DecidableEq, Repr

/-- The place to which a segment with more than one value refers, and the counters behind it. A
null source is no place. -/
def decodeOrigin (sources : Sources) (names : List String) (segment : String)
    (values : List Int) (counters : Counters) :
    Except Fault (Option Origin × Counters) := do
  let source := counters.source + values.getD 1 0
  let value ← sourceAt sources segment source
  match values with
  | _ :: _ :: lineStep :: columnStep :: more =>
    let line := counters.line + lineStep
    let column := counters.column + columnStep
    let origin (name : Option String) : Option Origin :=
      match value with
      | .null => none
      | value => some { source := value, line, column, name }
    match more with
    | [] => return (origin none, { counters with source, line, column })
    | nameStep :: _ =>
      let number := counters.name + nameStep
      let name ← nameAt names segment number
      return (origin (some name), { source, line, column, name := number })
  | _ => throw (.shortSegment segment values)

/-- The numbers of a segment. -/
def segmentValues (segment : List Char) : Except Fault (List Int) :=
  match Vlq.decode segment with
  | .ok values => .ok values
  | .error .beyondDigits => .error (.malformed .beyondDigits)
  | .error .unfinished => .error .unfinishedSegment

/-- A segment that follows one at generated column `column`, and the counters behind it. -/
def decodeSegment (sources : Sources) (names : List String) (column : Int)
    (counters : Counters) (segment : List Char) : Except Fault (Segment × Counters) := do
  let values ← segmentValues segment
  let column := column + values.headD 0
  let (origin, counters) ←
    if values.length ≤ 1 then pure (none, counters)
    else decodeOrigin sources names (String.ofList segment) values counters
  if column < 0 ∨ counters.line < 0 ∨ counters.column < 0 then throw .negativePosition
  return ({ column, origin }, counters)

/-- The segments of one line. -/
def decodeLine (sources : Sources) (names : List String) (column : Int) (counters : Counters) :
    List (List Char) → Except Fault (List Segment × Counters)
  | [] => .ok ([], counters)
  | text :: texts =>
    if text.isEmpty then decodeLine sources names column counters texts
    else do
      let (segment, counters) ← decodeSegment sources names column counters text
      let (segments, counters) ← decodeLine sources names segment.column counters texts
      return (segment :: segments, counters)

/-- The segments of all lines. -/
def decodeLines (sources : Sources) (names : List String) (counters : Counters) :
    List (List Char) → Except Fault (List (List Segment))
  | [] => .ok []
  | line :: lines => do
    let (segments, counters) ← decodeLine sources names 0 counters (Text.splitOn ',' line)
    let rest ← decodeLines sources names counters lines
    return segments :: rest

/-! ## Maps -/

/-- A part of a map that is empty where the map does not give it. -/
def partOf (members : Members) (name : String) : Value :=
  (get? members name).getD (.array [])

/-- Decodes the mappings of a map with the given members. -/
abbrev Decoder := Members → String → Except Fault Mapping

/-- The mappings with the sources and names of the map. -/
def decodeMappings : Decoder := fun members mappings => do
  let names ← (namesOf (partOf members "names")).mapError .malformed
  let root := (get? members "sourceRoot").getD .null
  let sources ← (sourcesOf root (partOf members "sources")).mapError .malformed
  let lines ← decodeLines sources names {} (Text.splitOn ';' mappings.toList)
  return { lines }

/-- The members, with the parts that a map may leave out. -/
def completed (members : Members) : Members :=
  members.foldl (fun kept (name, value) => setMember name value kept)
    [("sources", .array []), ("names", .array [])]

/-- The map with the given members. What is written for the decoder is read again as what it was:
no depth that could be read and written is too much for that. -/
def ofMembers (runtime : Runtime) (decode : Decoder) (members : Members) :
    Except Fault Mapping := do
  if (get? members "sections").isSome then throw .sections
  let some (.string mappings) := get? members "mappings" | throw .noMappings
  if !(Value.object (completed members)).fits runtime.writeDepth then throw .tooDeepToWrite
  decode members mappings

/-- The fault of a text that the reader of JSON does not take. -/
def Fault.ofStop (text : List Char) : Stop → Fault
  | .malformed fault rest => .notJson fault (positionOf text rest)
  | .tooManyDigits count => .tooManyDigits count
  | .tooDeep container => .tooDeep container

/-- The map that a text writes, with its mappings read by the decoder. -/
def ofTextWith (runtime : Runtime) (decoder : Decoder) (text : String) : Except Fault Mapping :=
  match decode runtime text.toList with
  | .error stop => .error (.ofStop text.toList stop)
  | .ok (.object members) => ofMembers runtime decoder members
  | .ok _ => .error .notObject

/-- The map that a text writes. -/
def ofText (runtime : Runtime) : String → Except Fault Mapping :=
  ofTextWith runtime decodeMappings

end VmScan.SourceMap
