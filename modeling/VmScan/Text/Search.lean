/-!
# Searching

Looking for a pattern inside a text, and parting a text where it stands.

* `occursIn`, `mentions` — whether a pattern stands somewhere in a text.
* `behind?`, `skipSpaces` — the text behind a pattern that it starts with, or behind spaces.
* `first?`, `last?` — what is read at the first or last place where something can be read.
* `partsBetween`, `replaceAll` — a text parted at a pattern, and with another text in its places.
-/

namespace VmScan.Text

/-- Whether the pattern stands somewhere in the text. -/
def occursIn (pattern : List Char) : List Char → Bool
  | [] => pattern.isEmpty
  | c :: cs => pattern.isPrefixOf (c :: cs) || occursIn pattern cs

/-- Whether the pattern stands somewhere in the string. -/
def mentions (text pattern : String) : Bool :=
  occursIn pattern.toList text.toList

/-- The text behind the pattern that it starts with. -/
def behind? : List Char → List Char → Option (List Char)
  | [], cs => some cs
  | p :: pattern, c :: cs => if p = c then behind? pattern cs else none
  | _ :: _, [] => none

theorem behind?_eq_some_iff {pattern text rest : List Char} :
    behind? pattern text = some rest ↔ text = pattern ++ rest := by
  fun_induction behind? pattern text <;> simp_all [eq_comm]

/-- The text without the spaces that it starts with. -/
def skipSpaces (text : List Char) : List Char :=
  text.dropWhile (· = ' ')

/-- What is read at the first place where something can be read, with the text in front of it. -/
def first? {α : Type} (read? : List Char → Option α) : List Char → Option (List Char × α)
  | [] => (read? []).map ([], ·)
  | c :: cs =>
    match read? (c :: cs) with
    | some found => some ([], found)
    | none => (first? read? cs).map fun (front, found) => (c :: front, found)

/-- What is read at the last place where something can be read, with the text in front of it. -/
def last? {α : Type} (read? : List Char → Option α) : List Char → Option (List Char × α)
  | [] => (read? []).map ([], ·)
  | c :: cs =>
    match last? read? cs with
    | some (front, found) => some (c :: front, found)
    | none => (read? (c :: cs)).map ([], ·)

/-- The parts between the places of the pattern, which are taken from the left and do not overlap.
The first characters belong to a place; their number is given. -/
def partsBehind (pattern : List Char) : Nat → List Char → List (List Char)
  | _, [] => [[]]
  | taken + 1, _ :: cs => partsBehind pattern taken cs
  | 0, c :: cs =>
    if pattern.isPrefixOf (c :: cs) then [] :: partsBehind pattern (pattern.length - 1) cs
    else match partsBehind pattern 0 cs with
      | [] => [[c]]
      | part :: parts => (c :: part) :: parts

/-- The parts of a text between the places of a pattern. -/
def partsBetween (pattern text : List Char) : List (List Char) :=
  partsBehind pattern 0 text

/-- The text with another one in the places of the pattern. -/
def replaceAll (pattern new text : List Char) : List Char :=
  new.intercalate (partsBetween pattern text)

end VmScan.Text
