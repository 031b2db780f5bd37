import Std.Time.Format
import VmScan.CommandLine.Program
import VmScan.Json.Printer
import VmScan.Json.Reader

/-!
# The command line

The program on a real disk, with a real clock. Models are asked, and the tool is served, over the
standard streams.

* A request to a model is a value on the error output. The reply is a line on the input: an object
  with the members `text`, `input_tokens` and `output_tokens`, or with a member `error`, an object
  with the members `name`, `text`, `status` and `rate_limit`.
* A call of the tool is a line on the input: an object with the arguments. The answer is a value
  on the output, an object with the members `is_error` and `text`.
-/

namespace VmScan.Main

open VmScan.CommandLine
open VmScan.Json

/-! ## Clock -/

/-- The nanoseconds of a second. -/
def nanoseconds : Nat := 1000000000

/-- The time in seconds. -/
def now : IO Rat := do
  let stamp ← Std.Time.Timestamp.now
  return (stamp.toNanosecondsSinceUnixEpoch.val : Rat) / nanoseconds

/-- How a time is written. -/
def writeTime (seconds : Rat) : String :=
  let stamp := Std.Time.Timestamp.ofNanosecondsSinceUnixEpoch (.ofInt (seconds * nanoseconds).floor)
  (Std.Time.DateTime.ofTimestamp stamp Std.Time.TimeZone.ZoneRules.UTC).format
    "uuuu-MM-dd'T'HH:mm:ss.SSSSSSxxx"

/-! ## Disk -/

/-- What stands at a path on the disk. -/
def look (path : Path) : IO Entry := do
  try
    return .file (← IO.FS.readBinFile path.text).toList
  catch
    | .inappropriateType _ _ details =>
      return if Text.mentions (Text.lower details) "is a directory" then .directory else .blocked
    | .permissionDenied _ number text => return .closed { number := number.toNat, text }
    | .invalidArgument _ number text | .otherError number text =>
      return .hidden { number := number.toNat, text }
    | _ => return .missing

/-- Writes a file on the disk. -/
def writeFile (path : Path) (bytes : List UInt8) : IO (Except FileFault Unit) := do
  try
    IO.FS.writeBinFile path.text ⟨bytes.toArray⟩
    return .ok ()
  catch _ =>
    match ← look path with
    | .directory => return .error (.directory path)
    | .blocked => return .error (.notADirectory path)
    | .closed error | .hidden error => return .error (.system path error)
    | _ => return .error (.missing path)

/-- The variables of the environment, where the system shows them. -/
def environment : IO Settings.Environment := do
  try
    let bytes ← IO.FS.readBinFile "/proc/self/environ"
    let bindings := Text.splitOn (Char.ofNat 0) (Text.Utf8.decodeLossy bytes.toList)
    return bindings.filterMap fun binding =>
      match binding.dropWhile (· ≠ '=') with
      | _ :: value => some (String.ofList (binding.takeWhile (· ≠ '=')), String.ofList value)
      | [] => none
  catch _ => return []

/-! ## Models -/

/-- A member that is a text. -/
def text? (members : Members) (name : String) : Option String :=
  match Json.get? members name with
  | some (.string text) => some text
  | _ => none

/-- A member that is an integer. -/
def int? (members : Members) (name : String) : Option Int :=
  match Json.get? members name with
  | some (.int n) => some n
  | _ => none

/-- What went wrong, as a reply tells it. -/
def faultOf (members : Members) : Fault where
  name := (text? members "name").getD "Error"
  text := (text? members "text").getD ""
  status := (int? members "status").map .integer
  isRateLimit := match Json.get? members "rate_limit" with
    | some (.bool isRateLimit) => isRateLimit
    | _ => false

/-- The completion that a reply tells. -/
def completionOf (line : String) : Except Failure Completion :=
  match Json.decode .usual line.toList with
  | .ok (.object members) =>
    match Json.get? members "error" with
    | some (.object fault) => .error { fault := faultOf fault }
    | _ => .ok {
        text := text? members "text"
        usage := some {
          input := int? members "input_tokens", output := int? members "output_tokens" } }
  | _ => .error { fault := { name := "ConnectionError", text := "connection closed" } }

/-- Models behind the standard streams. -/
def transport : Transport IO where
  now
  writeTime
  send := fun request => do
    IO.eprintln (Json.encode request.toJson)
    return completionOf (← (← IO.getStdin).getLine)
  wait := fun seconds => IO.sleep (UInt32.ofNat (seconds * 1000))

/-! ## The program -/

/-- Takes a warning, unless the main logger leaves it out. -/
def warn (level : IO.Ref LogLevel) (text : String) : IO Unit := do
  if (← level.get).rank ≤ LogLevel.warning.rank then
    IO.eprintln s!"WARNING - {text}"

/-- What a detection needs from outside. Exact encodings are estimated. -/
def host (level : IO.Ref LogLevel) : Host IO where
  disk := { look, write := writeFile }
  runtime := .usual
  transport
  encodings := { ofModel? := fun _ => some estimateTokens, ofName := fun _ => estimateTokens }
  warn := warn level
  tell := fun _ => return

/-- The answer to a call of the tool. -/
def answer (outcome : Except Tool.Fault String) : Value :=
  let (isError, text) := match outcome with
    | .ok text => (false, text)
    | .error fault => (true, fault.message)
  .object [("is_error", .bool isError), ("text", .string text)]

/-- Answers calls of the tool until the input ends. -/
partial def answerCalls (host : Host IO) (settings : Settings) (session : Session) : IO Unit := do
  let line ← (← IO.getStdin).getLine
  if line.isEmpty then return
  let given := match Json.decode .usual line.toList with
    | .ok (.object members) => members
    | _ => []
  let (outcome, session) ← (Tool.call host (some settings) given).run session
  IO.println (Json.encode (answer outcome))
  answerCalls host settings session

/-- Serves the tool. -/
def serve (host : Host IO) (service : Service) (settings : Settings) : IO Unit :=
  match service with
  | .stdio => answerCalls host settings {}
  | .sse address port => IO.eprintln s!"Error: cannot listen on {address}:{port}"

/-- The milliseconds since the last call. -/
def lap (last : IO.Ref Nat) : IO String := do
  let now ← IO.monoMsNow
  return toString (now - (← last.swap now))

/-- The program on this machine. -/
def shell : IO (Shell IO) := do
  let level ← IO.mkRef LogLevel.info
  let last ← IO.mkRef (← IO.monoMsNow)
  return {
    host := host level
    environment := ← environment
    out := fun text => do
      IO.print text
      return .ok ()
    err := IO.eprint
    setLevel := level.set
    stamp := return writeTime (← now)
    lap := lap last
    serve := serve (host level) }

/-- Tells why the program ended without an exit code of its own. -/
def explain : ProgramFault → IO Unit
  | .settings invalid => invalid.forM fun invalid =>
      IO.eprintln s!"Error: {invalid.field}: {invalid.refusal.message}"
  | .bindings fault => IO.eprintln s!"Error: {fault.message}"
  | .bindingsFile fault | .output fault => IO.eprintln s!"Error: {fault.message}"
  | .encoding fault => IO.eprintln s!"Error: {fault.message}"

/-- Does what the command line asks for. -/
def run (texts : List String) : IO UInt32 := do
  let (ended, _) ← (execute (← shell) texts).run {}
  if let .error fault := ended then explain fault
  return UInt32.ofNat (exitNumber ended)

end VmScan.Main

/-- The program. -/
def main (texts : List String) : IO UInt32 :=
  VmScan.Main.run texts
