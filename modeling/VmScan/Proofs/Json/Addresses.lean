import Mathlib.Data.List.Basic
import VmScan.Json.Value

/-!
# Values inside a value

A value inside another is found by the names and numbers on the way to it, and can be replaced
there. What is replaced behind one name leaves the members with other names alone.

* `Step` — one name or number on the way.
* `Value.at?` — the value at the end of a way.
* `Value.replaceAt` — the whole value, with another one there.

Results:
* `get?_modifyMember`, `get?_modifyMember_of_ne`: the members of an object with a replacement.
* `exists_of_at?_member`, `exists_of_at?_item`: the way through an object and through an array.
-/

namespace VmScan.Json

/-- A step into a value: to the member with the name, or to the item with the number. -/
inductive Step where
  | member (name : String)
  | item (index : Nat)
  deriving DecidableEq, Repr

/-- The members with `change` applied to the one with the name. -/
def modifyMember (name : String) (change : Value → Value) (members : Members) : Members :=
  members.map fun member => if member.1 = name then (name, change member.2) else member

/-- The value at the end of the way, if the way leads somewhere. -/
def Value.at? : Value → List Step → Option Value
  | value, [] => some value
  | .object members, .member name :: way => (get? members name).bind (·.at? way)
  | .array items, .item index :: way => items[index]?.bind (·.at? way)
  | _, _ :: _ => none

/-- The value with `new` at the end of the way; without such a place, the value as it is. -/
def Value.replaceAt : Value → List Step → Value → Value
  | _, [], new => new
  | .object members, .member name :: way, new =>
    .object (modifyMember name (·.replaceAt way new) members)
  | .array items, .item index :: way, new => .array (items.modify index (·.replaceAt way new))
  | value, _ :: _, _ => value

section Members

variable {members : Members} {name other : String} {change : Value → Value}

theorem get?_cons (member : String × Value) (members : Members) (name : String) :
    get? (member :: members) name
      = if member.1 = name then some member.2 else get? members name := by
  unfold get?
  by_cases h : member.1 = name
  · rw [if_pos h, List.find?_cons_of_pos (by simpa using h)]
    rfl
  · rw [if_neg h, List.find?_cons_of_neg (by simpa using h)]

/-- The member with the name is changed. -/
theorem get?_modifyMember (members : Members) (name : String) (change : Value → Value) :
    get? (modifyMember name change members) name = (get? members name).map change := by
  induction members with
  | nil => rfl
  | cons member members ih =>
    rw [modifyMember, List.map_cons, ← modifyMember, get?_cons, get?_cons, ih]
    by_cases h : member.1 = name
    · simp only [h, if_true]
      rfl
    · simp only [h, if_false]

/-- Every other member is as it was. -/
theorem get?_modifyMember_of_ne (h : other ≠ name) :
    get? (modifyMember name change members) other = get? members other := by
  induction members with
  | nil => rfl
  | cons member members ih =>
    rw [modifyMember, List.map_cons, ← modifyMember, get?_cons, get?_cons, ih]
    by_cases hmember : member.1 = name
    · simp only [hmember, if_true, if_neg h.symm]
    · simp only [hmember, if_false]

end Members

section Ways

variable {value found : Value} {way : List Step}

/-- A way that starts with a name leads through an object. -/
theorem exists_of_at?_member {name : String}
    (h : value.at? (.member name :: way) = some found) :
    ∃ members inner, value = .object members ∧ get? members name = some inner ∧
      inner.at? way = some found := by
  cases value with
  | object members =>
    obtain ⟨inner, hinner, hfound⟩ := Option.bind_eq_some_iff.mp h
    exact ⟨members, inner, rfl, hinner, hfound⟩
  | _ => cases h

/-- A way that starts with a number leads through an array. -/
theorem exists_of_at?_item {index : Nat} (h : value.at? (.item index :: way) = some found) :
    ∃ items inner, value = .array items ∧ items[index]? = some inner ∧
      inner.at? way = some found := by
  cases value with
  | array items =>
    obtain ⟨inner, hinner, hfound⟩ := Option.bind_eq_some_iff.mp h
    exact ⟨items, inner, rfl, hinner, hfound⟩
  | _ => cases h

end Ways

end VmScan.Json
