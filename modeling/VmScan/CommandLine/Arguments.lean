import VmScan.CommandLine.Grammar
import VmScan.Detection.Export
import VmScan.Number.Integer

/-!
# The command lines of the program

* `AnalyzeArguments`, `ServeArguments` — what the two commands take.
* `Invocation` — what the program is to do.
* `analyzeGrammar`, `serveGrammar`, `programGrammar` — the grammars, with their help texts
  (`_build_parser`).
* `Invocation.ofTexts` — what a command line asks for.
-/

namespace VmScan.CommandLine

open VmScan.Detection

/-- What the command that analyses a file takes. -/
structure AnalyzeArguments where
  file : String := ""
  start : Option Int := none
  finish : Option Int := none
  charLimit : Option Int := none
  maxTokens : Option Int := none
  format : Format := .text
  output : Option String := none
  verbose : Bool := false
  deriving DecidableEq, Repr

/-- The ways in which tools are served. -/
inductive Service where
  | stdio
  | sse (host : String) (port : Int)
  deriving DecidableEq, Repr

/-- What the command that serves the tool takes. -/
structure ServeArguments where
  overNetwork : Bool := false
  host : String := "127.0.0.1"
  port : Int := 8001
  deriving DecidableEq, Repr

/-- How the tool is to be served. -/
def ServeArguments.service (arguments : ServeArguments) : Service :=
  if arguments.overNetwork then .sse arguments.host arguments.port else .stdio

/-! ## Values -/

/-- A positive integer. -/
def positive (text : String) : Except String Int :=
  match Number.ofText text.toList with
  | .error _ => .error ("invalid integer: " ++ Text.quoted text)
  | .ok n => if n < 1 then .error s!"must be a positive integer: {text}" else .ok n

/-- An integer. -/
def integer (text : String) : Except String Int :=
  (Number.ofText text.toList).mapError fun _ => "invalid int value: " ++ Text.quoted text

/-- The message for a text that is none of the given ones. -/
def notAmong (choices : List String) (text : String) : String :=
  let listed := ", ".intercalate (choices.map Text.quoted)
  "invalid choice: " ++ Text.quoted text ++ s!" (choose from {listed})"

/-- The format with the given name. -/
def format (text : String) : Except String Format :=
  match Format.ofName? text with
  | some format => .ok format
  | none => .error (notAmong (Format.all.map (·.name)) text)

/-- Whether the way of serving with the given name is the one over the network. -/
def overNetwork (text : String) : Except String Bool :=
  if text = "stdio" then .ok false
  else if text = "sse" then .ok true
  else .error (notAmong ["stdio", "sse"] text)

/-- The name of the program. -/
def programName : String := "jsvmp-detector"

/-- The flag that asks for the help text. -/
def helpFlag {σ : Type} : Flag σ := { names := ["-h", "--help"], effect := .help }

/-- A flag whose value is read and then set. -/
def valueFlag {σ α : Type} (names : List String) (read : String → Except String α)
    (set : α → σ → σ) : Flag σ where
  names
  effect := .value fun text settings => (read text).map (set · settings)

/-! ## Analysing a file -/

/-- The help text of the command that analyses a file. -/
def analyzeHelp : List String := [
  "usage: jsvmp-detector analyze [-h] [--start-line START_LINE]",
  "                              [--end-line END_LINE] [--char-limit CHAR_LIMIT]",
  "                              [--max-tokens-per-batch MAX_TOKENS_PER_BATCH]",
  "                              [--format \x7btext,json\x7d] [--output OUTPUT]",
  "                              [--verbose]",
  "                              file_path",
  "",
  "positional arguments:",
  "  file_path             Path to the JavaScript file",
  "",
  "options:",
  "  -h, --help            show this help message and exit",
  "  --start-line START_LINE",
  "                        First beautified line to analyze (default: 1)",
  "  --end-line END_LINE   Last beautified line to analyze (default: last line)",
  "  --char-limit CHAR_LIMIT",
  "                        String literal truncation limit (default: from",
  "                        settings)",
  "  --max-tokens-per-batch MAX_TOKENS_PER_BATCH",
  "                        Token budget per batch (default: from settings)",
  "  --format \x7btext,json\x7d, -f \x7btext,json\x7d",
  "                        Output format (default: text)",
  "  --output OUTPUT, -o OUTPUT",
  "                        Write the report to this file instead of stdout",
  "  --verbose, -v         Enable verbose output"]

/-- The grammar of the command that analyses a file. -/
def analyzeGrammar : Grammar AnalyzeArguments where
  program := programName ++ " analyze"
  help := analyzeHelp
  flags := [
    helpFlag,
    valueFlag ["--start-line"] positive fun n arguments => { arguments with start := some n },
    valueFlag ["--end-line"] positive fun n arguments => { arguments with finish := some n },
    valueFlag ["--char-limit"] positive fun n arguments => { arguments with charLimit := some n },
    valueFlag ["--max-tokens-per-batch"] positive fun n arguments =>
      { arguments with maxTokens := some n },
    valueFlag ["--format", "-f"] format fun format arguments => { arguments with format },
    valueFlag ["--output", "-o"] (.ok ·) fun file arguments =>
      { arguments with output := some file },
    { names := ["--verbose", "-v"]
      effect := .switch fun arguments => { arguments with verbose := true } }]
  positional := .word "file_path" fun file arguments => { arguments with file }

/-! ## Serving the tool -/

/-- The help text of the command that serves the tool. -/
def serveHelp : List String := [
  "usage: jsvmp-detector mcp [-h] [--transport \x7bstdio,sse\x7d] [--host HOST]",
  "                          [--port PORT]",
  "",
  "options:",
  "  -h, --help            show this help message and exit",
  "  --transport \x7bstdio,sse\x7d, -t \x7bstdio,sse\x7d",
  "                        Transport protocol (default: stdio)",
  "  --host HOST           Bind address for SSE transport (default: 127.0.0.1)",
  "  --port PORT           Port for SSE transport (default: 8001)"]

/-- The grammar of the command that serves the tool. -/
def serveGrammar : Grammar ServeArguments where
  program := programName ++ " mcp"
  help := serveHelp
  flags := [
    helpFlag,
    valueFlag ["--transport", "-t"] overNetwork fun overNetwork arguments =>
      { arguments with overNetwork },
    valueFlag ["--host"] (.ok ·) fun host arguments => { arguments with host },
    valueFlag ["--port"] integer fun port arguments => { arguments with port }]
  positional := .absent

/-! ## The program -/

/-- The two commands with what they take. -/
inductive Command where
  | analyze (arguments : AnalyzeArguments)
  | serve (arguments : ServeArguments)
  deriving DecidableEq, Repr

/-- What is asked of the program. -/
structure ProgramArguments where
  version : Bool := false
  command : Option Command := none
  deriving DecidableEq, Repr

/-- The help text of the program. -/
def programHelp : List String := [
  "usage: jsvmp-detector [-h] [--version] \x7banalyze,mcp\x7d ...",
  "",
  "Detect JSVMP dispatchers in JavaScript files with LLM-assisted analysis.",
  "",
  "positional arguments:",
  "  \x7banalyze,mcp\x7d",
  "    analyze      Analyze a JavaScript file",
  "    mcp          Start MCP server",
  "",
  "options:",
  "  -h, --help     show this help message and exit",
  "  --version      Print version and exit"]

/-- The command with the given name and what it takes, with the texts that had no place. -/
def readCommand (name : String) (texts : List String) :
    Except Stop (Command × List String) :=
  if name = "analyze" then
    (analyzeGrammar.read {} texts).map fun (arguments, extras) => (.analyze arguments, extras)
  else
    (serveGrammar.read {} texts).map fun (arguments, extras) => (.serve arguments, extras)

/-- The grammar of the program. -/
def programGrammar : Grammar ProgramArguments where
  program := programName
  help := programHelp
  flags := [
    helpFlag,
    { names := ["--version"]
      effect := .switch fun arguments => { arguments with version := true } }]
  positional := .command "command" ["analyze", "mcp"] fun name texts arguments =>
    (readCommand name texts).map fun (command, extras) =>
      ({ arguments with command := some command }, extras)

/-- What the program is to do. -/
inductive Invocation where
  | showVersion
  | showHelp (lines : List String)
  | run (command : Command)
  | refuse (usage : List String) (program message : String)
  deriving DecidableEq, Repr

/-- What the arguments ask for; without a command, the help text. -/
def ProgramArguments.invocation (arguments : ProgramArguments) : Invocation :=
  if arguments.version then .showVersion
  else match arguments.command with
    | some command => .run command
    | none => .showHelp programHelp

/-- What a command line asks for. -/
def Invocation.ofTexts (texts : List String) : Invocation :=
  match programGrammar.readAll {} texts with
  | .ok arguments => arguments.invocation
  | .error (.help lines) => .showHelp lines
  | .error (.refused usage program message) => .refuse usage program message

end VmScan.CommandLine
