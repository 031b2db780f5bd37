import VmScan.Text.Blank
import VmScan.Text.Lines
import VmScan.Text.Search
import VmScan.Text.Word

/-!
# Directives

A comment may hold directives: names with values, by which the author of a script keeps a part of
it as it is.

* `directives?` — the directives of a comment that holds nothing else.
* `Directives.value?` — the value that a name has at last.
* `ignoredEnd?` — the end of a part that the layout passes over.
-/

namespace VmScan.Layout

/-- Names with values. -/
abbrev Directives := List (String × String)

/-- The value that a name has at last. -/
def Directives.value? (directives : Directives) (name : String) : Option String :=
  (directives.reverse.find? (·.1 = name)).map (·.2)

/-- A word, if the text is one. -/
def word? (cs : List Char) : Option String :=
  if !cs.isEmpty && cs.all Text.isWord then some (String.ofList cs) else none

/-- A directive: two words with a colon between them. -/
def directive? (cs : List Char) : Option (String × String) :=
  match Text.splitOn ':' cs with
  | [name, value] => do return (← word? name, ← word? value)
  | _ => none

/-- The directives of a comment that holds nothing else; a blank stands in front of each one, and
behind them all. -/
def directives? (comment : List Char) : Option Directives := do
  let behind ← Text.behind? "/* beautify ".toList comment
  let body ← Text.behind? "/* ".toList behind.reverse
  (Text.splitOn ' ' body.reverse).mapM directive?

/-- The text behind a blank of any kind. -/
def behindBlank? : List Char → Option (List Char)
  | c :: cs => if Text.isBlank c then some cs else none
  | [] => none

/-- The text behind the comment that ends a part that is passed over. -/
def ignoredEnd? (cs : List Char) : Option (List Char) := do
  let cs ← behindBlank? (← Text.behind? "/*".toList cs)
  let cs ← behindBlank? (← Text.behind? "beautify".toList cs)
  let cs ← behindBlank? (← Text.behind? "ignore:end".toList cs)
  Text.behind? "*/".toList cs

end VmScan.Layout
