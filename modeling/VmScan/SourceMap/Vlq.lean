/-!
# Variable-length quantities

The numbers in the mappings of a source map are written with base64 digits of six bits: five bits
of the number, the lowest first, and a bit that says whether the number goes on. The lowest bit of
the whole is its sign.

* `digit?` — the five bits and the continuation bit of a character. A character up to `z` that is
  no digit counts as five set bits that go on; beyond `z` there is no digit at all.
* `decode` — all numbers of a segment.
-/

namespace VmScan.SourceMap.Vlq

/-- The value of a base64 digit. -/
def base64Value? (c : Char) : Option Nat :=
  if 'A' ≤ c && c ≤ 'Z' then some (c.toNat - 65)
  else if 'a' ≤ c && c ≤ 'z' then some (c.toNat - 71)
  else if '0' ≤ c && c ≤ '9' then some (c.toNat + 4)
  else if c = '+' then some 62
  else if c = '/' then some 63
  else none

/-- The five bits that a character adds and whether the number goes on. -/
def digit? (c : Char) : Option (Nat × Bool) :=
  if 'z' < c then none
  else match base64Value? c with
    | some value => some (value % 32, 32 ≤ value)
    | none => some (31, true)

/-- Why a segment has no numbers. -/
inductive Fault where
  | beyondDigits
  | unfinished
  deriving DecidableEq, Repr

/-- The number with its sign in the lowest bit. -/
def unzigzag (n : Nat) : Int :=
  if n % 2 = 1 then -((n / 2 : Nat) : Int) else ((n / 2 : Nat) : Int)

/-- The numbers that the digits write, with `sum` gathered so far below weight `32 ^ place`. -/
def decodeFrom (sum place : Nat) : List Char → Except Fault (List Int)
  | [] => if place = 0 then .ok [] else .error .unfinished
  | c :: cs =>
    match digit? c with
    | none => .error .beyondDigits
    | some (bits, continues) =>
      let sum := sum + bits * Nat.pow 32 place
      if continues then decodeFrom sum (place + 1) cs
      else (decodeFrom 0 0 cs).map (unzigzag sum :: ·)

/-- The numbers of a segment. -/
def decode (segment : List Char) : Except Fault (List Int) :=
  decodeFrom 0 0 segment

end VmScan.SourceMap.Vlq
