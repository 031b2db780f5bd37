import VmScan.Log.Level

/-!
# Setting up logging

Logging is set up in two phases, around the moment at which the client library for models
configures loggers of its own. Each phase takes effect once.

* `LogState` — the loggers that the set-up touches.
* `setUp` — the first phase: the main logger, and the loggers that say too much (`setup_logging`).
* `setLevel` — the level of the main logger, at any time (`set_level`).
* `attach` — a handler that someone adds to a logger, which then keeps its records to itself.
* `cleanUp` — the second phase: the loggers of the client library lose their handlers
  (`cleanup_third_party_handlers`).
* `step`, `run` — one of these steps, and a row of them.
-/

namespace VmScan

/-- One logger. -/
structure Logger where
  handlers : Nat := 0
  /-- Whether records go on to the main logger. -/
  propagates : Bool := true
  level : LogLevel := .notSet
  deriving DecidableEq, Repr

/-- A logger with one more handler that keeps its records to itself. -/
def Logger.attached (logger : Logger) : Logger :=
  { logger with handlers := logger.handlers + 1, propagates := false }

/-- The loggers, and how far the set-up has come. -/
structure LogState where
  main : Logger := { level := .warning }
  /-- The other loggers by name. -/
  loggers : List (String × Logger)
  /-- What the client library for models is told about its level. -/
  clientLevel : Option String := none
  setUpDone : Bool := false
  cleanUpDone : Bool := false
  deriving DecidableEq, Repr

namespace LogState

/-- The loggers of the client library for models. -/
def clientLoggers : List String := ["LiteLLM", "LiteLLM Router", "LiteLLM Proxy"]

/-- The loggers that say too much. -/
def chattyLoggers : List String :=
  clientLoggers ++ ["openai._base_client", "httpx", "httpcore", "mcp.server.lowlevel.server"]

/-- The names of the main logger. -/
def mainNames : List String := ["", "root"]

/-- Untouched loggers. -/
def initial (clientLevel : Option String) : LogState where
  loggers := chattyLoggers.map fun name => (name, {})
  clientLevel

/-- Changes the loggers with the given names. -/
def change (names : List String) (f : Logger → Logger) (state : LogState) : LogState :=
  { state with
    loggers := state.loggers.map fun (name, logger) =>
      (name, if name ∈ names then f logger else logger) }

/-- The main logger with a handler and a level, if it has no handler yet. -/
def configureMain (level : LogLevel) (state : LogState) : LogState :=
  if state.main.handlers = 0 then
    { state with main := { state.main with handlers := 1, level } }
  else state

/-- The first phase. An unknown level leaves it undone but spent. -/
def setUp (level : String) (state : LogState) : LogState × Option String :=
  if state.setUpDone then (state, none)
  else
    let state := { state with setUpDone := true, clientLevel := state.clientLevel.or "WARNING" }
    match LogLevel.find? level with
    | none => (state, some (LogLevel.unknownMessage level))
    | some level =>
      ((state.configureMain level).change chattyLoggers fun logger =>
        { logger with level := .warning }, none)

/-- The level of the main logger. -/
def setLevel (level : String) (state : LogState) : LogState × Option String :=
  match LogLevel.find? level with
  | none => (state, some (LogLevel.unknownMessage level))
  | some level => ({ state with main := { state.main with level } }, none)

/-- Someone adds a handler to the logger. -/
def attach (name : String) (state : LogState) : LogState :=
  if name ∈ mainNames then { state with main := state.main.attached }
  else state.change [name] (·.attached)

/-- The second phase. -/
def cleanUp (state : LogState) : LogState :=
  if state.cleanUpDone then state
  else { state with cleanUpDone := true }.change clientLoggers fun logger =>
    { logger with handlers := 0, propagates := true }

end LogState

/-- Something that is done to the loggers. -/
inductive LogStep where
  | setUp (level : String)
  | setLevel (level : String)
  | attach (name : String)
  | cleanUp
  deriving DecidableEq, Repr

namespace LogState

/-- The loggers after a step, and the message if it fails. -/
def step (state : LogState) : LogStep → LogState × Option String
  | .setUp level => state.setUp level
  | .setLevel level => state.setLevel level
  | .attach name => (state.attach name, none)
  | .cleanUp => (state.cleanUp, none)

/-- The loggers after a row of steps. -/
def run (state : LogState) (steps : List LogStep) : LogState :=
  steps.foldl (fun state step => (state.step step).1) state

end LogState

end VmScan
