import VmScan.Text.Blank
import VmScan.Text.Case
import VmScan.Text.Quoted

/-!
# Log levels

* `LogLevel` — the names of levels; two levels have a second name.
* `LogLevel.rank` — how severe a level is.
* `LogLevel.find?` — the level of a name, without regard to case and outer blanks
  (`level_from_name`).
-/

namespace VmScan

/-- The names of log levels. -/
inductive LogLevel where
  | critical
  | fatal
  | error
  | warn
  | warning
  | info
  | debug
  | notSet
  deriving DecidableEq, Repr

namespace LogLevel

/-- All names. -/
def all : List LogLevel :=
  [.critical, .fatal, .error, .warn, .warning, .info, .debug, .notSet]

/-- The name of a level. -/
def label : LogLevel → String
  | .critical => "CRITICAL"
  | .fatal => "FATAL"
  | .error => "ERROR"
  | .warn => "WARN"
  | .warning => "WARNING"
  | .info => "INFO"
  | .debug => "DEBUG"
  | .notSet => "NOTSET"

/-- How severe a level is. -/
def rank : LogLevel → Nat
  | .critical | .fatal => 50
  | .error => 40
  | .warn | .warning => 30
  | .info => 20
  | .debug => 10
  | .notSet => 0

/-- The first name of the level, where it has two. -/
def primary : LogLevel → LogLevel
  | .fatal => .critical
  | .warn => .warning
  | level => level

/-- The level with the given name, without regard to case and outer blanks. -/
def find? (name : String) : Option LogLevel :=
  all.find? (·.label = Text.upperAscii (Text.trim name))

/-- The message for a name that no level has. -/
def unknownMessage (name : String) : String :=
  "unknown log level: " ++ Text.quoted name

end LogLevel

end VmScan
