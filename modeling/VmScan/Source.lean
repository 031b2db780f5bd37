import VmScan.File.Tree
import VmScan.Layout
import VmScan.Listing
import VmScan.Script.Truncate
import VmScan.SourceMap.Reader
import VmScan.Text.Utf8

/-!
# From files to listings

* `Source` — the text of a script, with the source map that came with it. A script that is not
  laid out anew is read with the map that lies beside its file; a map that cannot be used costs a
  warning and nothing else, where its fault is contained.
* `Source.read` — a script from its file (`JsBeautifier.beautify`, `PrebeautifiedSource.beautify`).
* `Source.format` — the listing of a whole script, with its long literals shortened.
* `Source.formatFile` — the listing of the script in a file (`format_entire_file`).
* `Source.excerpt`, `formatRange` — the lines of a range as one text (`format_code_for_analysis`).
-/

namespace VmScan

/-- The text of a script, with the source map that came with it. -/
structure Source where
  code : String
  map : Option SourceMap.Mapping := none

/-- How a script becomes readable. -/
inductive Preparation where
  /-- It is laid out anew, with this many blanks for each level. -/
  | layOut (indent : Nat)
  /-- It is readable as it is. -/
  | asIs
  deriving DecidableEq, Repr

/-- Why there is no listing of a script. -/
inductive FormatFault where
  | file (fault : FileFault)
  | layout (fault : Layout.Fault)
  | map (fault : SourceMap.Fault)
  | render (fault : Number.TextFault)
  | truncate (fault : Script.TruncateFault)

/-- The message of a fault. -/
def FormatFault.message : FormatFault → String
  | .file fault => fault.message
  | .layout fault => fault.message
  | .map fault => fault.message
  | .render fault => fault.message
  | .truncate fault => fault.message

namespace Source

/-- The suffix of the name of a source map. -/
def mapSuffix : String := ".map"

/-- The text of a script, with a line feed at the end of every line. -/
def textOf (bytes : List UInt8) : String :=
  String.ofList (Text.unifyLineEnds (Text.Utf8.decodeLossy bytes))

/-- The warning for a source map that cannot be used. -/
def mapWarning (path : Path) : String :=
  s!"event=source_map_unreadable path={(path.withSuffix mapSuffix).text}"

/-- The source map of a file, if it can be used, and the warning if it cannot. -/
def readMap (runtime : Json.Runtime) (decoder : SourceMap.Decoder) (path : Path)
    (bytes : List UInt8) : Except SourceMap.Fault (Option SourceMap.Mapping × List String) :=
  match Text.Utf8.decode bytes with
  | .error _ => .ok (none, [mapWarning path])
  | .ok cs =>
    match SourceMap.ofTextWith runtime decoder (String.ofList (Text.unifyLineEnds cs)) with
    | .ok mapping => .ok (some mapping, [])
    | .error fault => if fault.isContained then .ok (none, [mapWarning path]) else .error fault

/-- The script with this text and with the map beside it, and the warnings of reading them. A map
that cannot be opened costs a warning; looking for it may fail. -/
def withMap (runtime : Json.Runtime) (decoder : SourceMap.Decoder) (path : Path) (code : String)
    (beside : Entry) : Except FormatFault (Source × List String) :=
  match beside.lookError? with
  | some error => .error (.file (.system (path.withSuffix mapSuffix) error))
  | none =>
    match beside with
    | .file bytes =>
      match readMap runtime decoder path bytes with
      | .ok (map, warnings) => .ok ({ code, map }, warnings)
      | .error fault => .error (.map fault)
    | .closed _ => .ok ({ code }, [mapWarning path])
    | _ => .ok ({ code }, [])

/-- A script from what stands at its path and beside it, with a map read by the decoder, and the
warnings of reading it. -/
def readWith (runtime : Json.Runtime) (decoder : SourceMap.Decoder) (preparation : Preparation)
    (path : Path) (entry beside : Entry) : Except FormatFault (Source × List String) :=
  match entry.content path with
  | .error fault => .error (.file fault)
  | .ok bytes =>
    match preparation with
    | .layOut indent =>
      match Layout.layOut indent (textOf bytes) with
      | .ok code => .ok ({ code }, [])
      | .error fault => .error (.layout fault)
    | .asIs => withMap runtime decoder path (textOf bytes) beside

/-- A script from what stands at its path and beside it, and the warnings of reading it. -/
def read (runtime : Json.Runtime) :
    Preparation → Path → Entry → Entry → Except FormatFault (Source × List String) :=
  readWith runtime SourceMap.decodeMappings

/-- The listing of the script with literals of at most `limit` characters, where the tokenizer
finds them, with a warning where it found a fault. -/
def formatWith (source : Source) (tokenize : Script.Tokenizer) (limit : Int) :
    Except FormatFault (List Line × List String) :=
  match Script.truncateWith tokenize source.code limit with
  | .ok shortened =>
    .ok (Listing.listing shortened.code source.map, shortened.warning.toList)
  | .error fault => .error (.truncate fault)

/-- The listing of the script with literals of at most `limit` characters, with a warning where
it could not be scanned. -/
def format (source : Source) (limit : Int) : Except FormatFault (List Line × List String) :=
  source.formatWith Script.literalSpans limit

/-- What comes of reading a script: the script with the warnings on the way, or why there is
none. -/
abbrev Reading := Except FormatFault (Source × List String)

/-- The listing of a script that was read, with its literals found by the tokenizer, and the
warnings on the way; the warnings before a fault are given as well. -/
def formatReadWith (tokenize : Script.Tokenizer) (limit : Int) :
    Reading → Except FormatFault (List Line) × List String
  | .error fault => (.error fault, [])
  | .ok (source, warnings) =>
    match source.formatWith tokenize limit with
    | .error fault => (.error fault, warnings)
    | .ok (lines, more) => (.ok lines, warnings ++ more)

/-- The listing of a script that was read, and the warnings on the way. -/
def formatRead : Int → Reading → Except FormatFault (List Line) × List String :=
  formatReadWith Script.literalSpans

/-- The listing of the file at the path, with its literals found by the tokenizer, and the warnings
on the way. -/
def formatFileWith (runtime : Json.Runtime) (tokenize : Script.Tokenizer)
    (preparation : Preparation) (limit : Int) (path : Path) (entry beside : Entry) :
    Except FormatFault (List Line) × List String :=
  formatReadWith tokenize limit (read runtime preparation path entry beside)

/-- The listing of the file at the path, and the warnings on the way. -/
def formatFile (runtime : Json.Runtime) : Preparation → Int → Path → Entry → Entry →
    Except FormatFault (List Line) × List String :=
  formatFileWith runtime Script.literalSpans

end Source

/-- The lines of a range as one text, with the range after clamping. -/
structure Excerpt where
  content : String
  totalLines : Nat
  start : Int
  finish : Int
  deriving DecidableEq, Repr

namespace Listing

/-- The written lines of a range, cut out of a listing, as one text. -/
def formatRange (lines : List Line) (first last : Int) : Except Number.TextFault Excerpt := do
  let (start, finish) := clampRange first last lines.length
  let texts ← (lines.extract (start - 1).toNat finish.toNat).mapM (·.render)
  return { content := Text.unlines texts, totalLines := lines.length, start, finish }

end Listing

/-- The lines of a range of a script that was read, and the warnings on the way. -/
def Source.excerpt (limit first last : Int) (reading : Source.Reading) :
    Except FormatFault Excerpt × List String :=
  let (listing, warnings) := formatRead limit reading
  (listing.bind fun lines => (Listing.formatRange lines first last).mapError .render, warnings)

end VmScan
