import VmScan.Settings.EnvFile
import VmScan.Settings.Given

/-!
# Settings from the environment

* `environmentValues` — the settings that the variables give; case does not count, and of two
  names that differ in case only, the later one counts.
* `fileValues` — the settings that a file of bindings gives. Its references see the variables.
* `Settings.ofEnvironment` — the settings; a variable goes before a binding of the file.
-/

namespace VmScan.Settings

open VmScan.Json

/-- Names with their values. -/
abbrev Environment := List (String × String)

/-- The settings that the variables give. -/
def environmentValues (environment : Environment) : Members :=
  collectMembers (environment.map fun (name, value) => (Text.lower name, .string value))

/-- The values by name without regard to case. -/
def foldCase (values : EnvFile.Values) : EnvFile.Values :=
  values.foldl (fun folded (name, value) => EnvFile.assign (Text.lower name) value folded) []

/-- The settings that a file of bindings gives. -/
def fileValues (environment : Environment) (file : String) : Members :=
  let outer := environment.map fun (name, value) => (name, some value)
  let values := EnvFile.expand outer (EnvFile.bindings file.toList)
  (foldCase values).filterMap fun (name, value) => value.map fun text => (name, .string text)

/-- The settings that the variables and the file of bindings, if there is one, give. -/
def ofEnvironment (environment : Environment) (file : Option String) :
    Except (List Invalid) Settings :=
  let fromFile := (file.map (fileValues environment)).getD []
  ofGiven (collectMembers (fromFile ++ environmentValues environment))

end VmScan.Settings
