/-!
# Lines

A text is a row of parts with a separator between neighbours, so every text has at least one part
and joining the parts of a text gives it back. Lines are the parts between line feeds.

* `splitOn` — the parts of a row of characters.
* `lines`, `unlines` — the lines of a string, and back.
* `unifyLineEnds` — a text in which every line ends with a line feed.
-/

namespace VmScan.Text

/-- The parts between the separators; the empty text has one empty part. -/
def splitOn (separator : Char) : List Char → List (List Char)
  | [] => [[]]
  | c :: cs =>
    if c = separator then [] :: splitOn separator cs
    else match splitOn separator cs with
      | [] => [[c]]
      | part :: parts => (c :: part) :: parts

/-- The lines of a text. -/
def lines (text : String) : List String :=
  (splitOn '\n' text.toList).map String.ofList

/-- The text with the given lines. -/
def unlines (ls : List String) : String :=
  "\n".intercalate ls

/-- The text with a line feed for every carriage return, alone or with a line feed behind it. -/
def unifyLineEnds : List Char → List Char
  | [] => []
  | '\r' :: '\n' :: cs => '\n' :: unifyLineEnds cs
  | '\r' :: cs => '\n' :: unifyLineEnds cs
  | c :: cs => c :: unifyLineEnds cs

theorem splitOn_ne_nil (separator : Char) (cs : List Char) : splitOn separator cs ≠ [] := by
  cases cs with
  | nil => simp [splitOn]
  | cons c cs =>
    unfold splitOn
    split
    · simp
    · split <;> simp

end VmScan.Text
