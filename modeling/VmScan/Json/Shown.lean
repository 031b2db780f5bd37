import VmScan.Json.Value
import VmScan.Number.Shortest
import VmScan.Text.Quoted

/-!
# JSON values in messages and names

How a decoded value reads where a plain text is wanted.

* `Value.kind` — the word for the kind of a value.
* `Value.shown` — a value inside a message: strings in quotes, containers with brackets.
* `Value.plain` — a value as a text of its own: a string stands for itself.
-/

namespace VmScan.Json

open VmScan.Number VmScan.Text

/-- The word for the kind of a value. -/
def Value.kind : Value → String
  | .null => "NoneType"
  | .bool _ => "bool"
  | .int _ => "int"
  | .float _ => "float"
  | .string _ => "str"
  | .array _ => "list"
  | .object _ => "dict"

mutual

/-- The value as it is shown inside a message. -/
def Value.shown : Value → String
  | .null => "None"
  | .bool b => if b then "True" else "False"
  | .int n => toString n
  | .float x => x.text
  | .string s => quoted s
  | .array items => "[" ++ ", ".intercalate (shownItems items) ++ "]"
  | .object members => "\x7b" ++ ", ".intercalate (shownMembers members) ++ "\x7d"

/-- The items of an array as they are shown. -/
def shownItems : List Value → List String
  | [] => []
  | item :: items => item.shown :: shownItems items

/-- A member of an object as it is shown. -/
def shownMember : String × Value → String
  | (name, value) => quoted name ++ ": " ++ value.shown

/-- The members of an object as they are shown. -/
def shownMembers : List (String × Value) → List String
  | [] => []
  | member :: members => shownMember member :: shownMembers members

end

/-- The value as a text of its own. -/
def Value.plain : Value → String
  | .string s => s
  | value => value.shown

/-- What going through a value yields: the items of an array, the characters of a string or the
names of an object's members; nothing can be gone through in a value of another kind. -/
def Value.elements? : Value → Option (List Value)
  | .array items => some items
  | .string s => some (s.toList.map fun c => .string (String.singleton c))
  | .object members => some (members.map fun (name, _) => .string name)
  | _ => none

end VmScan.Json
