import VmScan.Packed.Fault
import VmScan.Text.Search
import VmScan.Text.Word

/-!
# Numerals of packed scripts

The words of a packed script are numerals in a base that the script states.

* `Base` — the bases that there are.
* `Base.value` — the number that a word writes in a base.
-/

namespace VmScan.Packed

/-- A base. -/
inductive Base where
  /-- Up to 36, the case of letters does not matter. -/
  | caseless (base : Nat)
  /-- From 37 to 62, capitals are digits behind the small letters. -/
  | cased (base : Nat)
  /-- All printable characters of ASCII are digits, in their order. -/
  | printable
  deriving DecidableEq, Repr

/-- The base with this many digits. -/
def Base.ofSize? (size : Nat) : Option Base :=
  if 2 ≤ size && size ≤ 36 then some (.caseless size)
  else if 36 < size && size ≤ 62 then some (.cased size)
  else if size = 95 then some .printable
  else none

/-- The value of a digit, if the base has it. -/
def Base.digit? (base : Base) (c : Char) : Option Nat :=
  let value? :=
    if '0' ≤ c && c ≤ '9' then some (c.toNat - 48)
    else if 'a' ≤ c && c ≤ 'z' then some (c.toNat - 87)
    else if 'A' ≤ c && c ≤ 'Z' then
      some (match base with
        | .caseless _ => c.toNat - 55
        | _ => c.toNat - 29)
    else none
  match base with
  | .caseless size | .cased size => value?.filter (· < size)
  | .printable => if ' ' ≤ c && c ≤ '~' then some (c.toNat - 32) else none

/-- The number of digits in a base. -/
def Base.size : Base → Nat
  | .caseless size | .cased size => size
  | .printable => 95

/-- The number that digits write; a character that is none counts as zero. -/
def Base.digitsValue (base : Base) (digits : List Char) : Nat :=
  digits.foldl (fun n c => base.size * n + (base.digit? c).getD 0) 0

/-- The letter that may stand behind a zero in front of a numeral. -/
def markOf? : Nat → Option Char
  | 2 => some 'b'
  | 8 => some 'o'
  | 16 => some 'x'
  | _ => none

/-- A numeral without the mark of its base, and without the low line behind the mark. -/
def dropMark (size : Nat) : List Char → List Char
  | '0' :: c :: cs =>
    if markOf? size = some c.toLower then
      match cs with
      | '_' :: rest => rest
      | _ => cs
    else '0' :: c :: cs
  | cs => cs

/-- Whether low lines stand only between two other characters. -/
def isGrouped (cs : List Char) : Bool :=
  cs.head? ≠ some '_' && cs.getLast? ≠ some '_' && !Text.occursIn ['_', '_'] cs

/-- The number that a word writes in a caseless base, with low lines between its digits. Where the
base is no power of two, too many digits are refused. -/
def caselessValue (size : Nat) (word : List Char) : Except Fault Nat :=
  let base := Base.caseless size
  let body := dropMark size word
  let isPart := fun c => c = '_' || (base.digit? c).isSome
  let digits := (body.takeWhile isPart).filter (· ≠ '_')
  if !isGrouped (body.takeWhile isPart) then .error (.badNumeral size word)
  else if !([2, 4, 8, 16, 32].contains size) && Number.maxDigits < digits.length then
    .error (.longNumeral digits.length)
  else if digits.isEmpty || !body.all isPart then .error (.badNumeral size word)
  else .ok (base.digitsValue digits)

/-- The number that a word writes in a base. -/
def Base.value (base : Base) (word : List Char) : Except Fault Nat :=
  match base with
  | .caseless size => caselessValue size word
  | _ =>
    match word.reverse.find? fun c => (base.digit? c).isNone with
    | some c => .error (.unknownDigit c)
    | none => .ok (base.digitsValue word)

end VmScan.Packed
