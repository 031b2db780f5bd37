import VmScan.Number.Binary64

/-!
# JSON values

* `Value` — a decoded value. Numbers keep what they were written as: a literal without fraction
  and exponent is an integer of any size, every other number is a binary64 number. The members
  of an object stand in the order in which their names first appear, each name once.
* `setMember` — gives a name its value: the last value written for a name counts.
* `get?` — the value of a member.
* `Value.fits` — whether at most so many containers stand inside each other.
-/

namespace VmScan.Json

open VmScan.Number

/-- A decoded value. -/
inductive Value where
  | null
  | bool (b : Bool)
  | int (n : Int)
  | float (x : Binary64)
  | string (s : String)
  | array (items : List Value)
  | object (members : List (String × Value))
  deriving Inhabited

/-- The members of an object. -/
abbrev Members := List (String × Value)

/-- Gives the name its value, in its place if it is there and at the end if not. -/
def setMember (name : String) (value : Value) : Members → Members
  | [] => [(name, value)]
  | (other, old) :: rest =>
    if other = name then (name, value) :: rest else (other, old) :: setMember name value rest

/-- The members left when they are written one after another. -/
def collectMembers (written : Members) : Members :=
  written.foldl (fun members (name, value) => setMember name value members) []

/-- Members are kept one after another. -/
theorem collectMembers_eq_foldl (written : Members) :
    collectMembers written
      = written.foldl (fun kept member => setMember member.1 member.2 kept) [] := rfl

/-- The value of the member with the given name. -/
def get? (members : Members) (name : String) : Option Value :=
  (members.find? fun (other, _) => other = name).map (·.2)

/-- Whether at most `depth` containers stand inside each other. -/
def Value.fits : Nat → Value → Bool
  | 0, .array _ | 0, .object _ => false
  | depth + 1, .array items => items.all (Value.fits depth)
  | depth + 1, .object members => members.all fun (_, value) => Value.fits depth value
  | _, _ => true

end VmScan.Json
