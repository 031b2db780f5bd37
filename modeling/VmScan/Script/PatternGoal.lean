/-!
# Where a slash opens a pattern

A slash divides or opens a pattern, depending on the tokens before it. The history of a script
keeps the text of each keyword and punctuator, and of every other token only that it was there.

* `History` — the tokens so far, with the places of the last opening brace and bracket.
* `History.valueAt?` — the token at a place. Places count from the end where they are negative,
  and may lie outside.
* `History.opensPattern?` — whether a slash after these tokens opens a pattern; `none` where the
  rule asks for a place outside the history.
-/

namespace VmScan.Script

/-- The tokens so far. -/
structure History where
  values : Array (Option String) := #[]
  lastBrace : Int := -1
  lastBracket : Int := -1

namespace History

/-- The history with one more token. -/
def push (history : History) (value : Option String) : History :=
  let place : Int := history.values.size
  { values := history.values.push value
    lastBrace := if value = some "\x7b" then place else history.lastBrace
    lastBracket := if value = some "(" then place else history.lastBracket }

/-- The token at a place, counted from the end where it is negative. -/
def valueAt? (history : History) (place : Int) : Option (Option String) :=
  let place := if place < 0 then place + history.values.size else place
  if place < 0 then none else history.values[place.toNat]?

/-- The punctuators and keywords behind which `function` begins an expression. -/
def beforeExpression : List String :=
  ["(", "\x7b", "[", "in", "typeof", "instanceof", "new", "return", "case", "delete", "throw",
   "void", "=", "+=", "-=", "*=", "**=", "/=", "%=", "<<=", ">>=", ">>>=", "&=", "|=", "^=", ",",
   "+", "-", "*", "**", "/", "%", "++", "--", "<<", ">>", ">>>", "&", "|", "^", "!", "~", "&&",
   "||", "?", ":", "===", "==", ">=", "<=", "<", ">", "!=", "!=="]

/-- The keywords whose condition in brackets a statement follows. -/
def beforeCondition : List String :=
  ["if", "while", "for", "with"]

/-- Whether a slash behind the closing brace of a function opens a pattern: not if the function
belongs to an expression. Without a token before it, the answer is `unknown`. -/
def afterFunction (before : Option String) (unknown : Bool) : Bool :=
  match before with
  | none => unknown
  | some token => !beforeExpression.contains token

/-- Whether a slash behind a closing brace opens a pattern. -/
def afterBrace? (history : History) : Option Bool :=
  if history.values.size < 3 then some true
  else do
    let third ← history.valueAt? (history.lastBrace - 3)
    if third = some "function" then
      return afterFunction (← history.valueAt? (history.lastBrace - 4)) false
    else if history.values.size < 4 then return true
    else
      let fourth ← history.valueAt? (history.lastBrace - 4)
      if fourth = some "function" then
        return afterFunction (← history.valueAt? (history.lastBrace - 5)) true
      else return true

/-- Whether a slash behind the tokens opens a pattern. -/
def opensPattern? (history : History) : Option Bool :=
  match history.values.back? with
  | none => some true
  | some none => some false
  | some (some token) =>
    if token = "this" || token = "]" then some false
    else if token = ")" then
      (history.valueAt? (history.lastBracket - 1)).map fun value =>
        value.any beforeCondition.contains
    else if token = "\x7d" then history.afterBrace?
    else some true

end History

end VmScan.Script
