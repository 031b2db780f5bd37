import VmScan.Layout.Token

/-!
# Frames

A frame is a part of the script that closes as a whole: a block, a statement, what stands between
two brackets. The layout remembers the frames that are open, for each one what it has seen of it.

* `Mode` — what a frame stands for.
* `Frame` — an open frame.
-/

namespace VmScan.Layout

/-- What a frame stands for. -/
inductive Mode where
  /-- Statements between braces, or the whole script. -/
  | block
  | statement
  | object
  | array
  /-- What stands between the parentheses of a counting loop. -/
  | loopHead
  /-- What stands between the parentheses of a condition. -/
  | condition
  | expression
  deriving DecidableEq, Repr, Inhabited

/-- Whether the frame stands between brackets and lists no elements. -/
def Mode.isExpression : Mode → Bool
  | .loopHead | .condition | .expression => true
  | .block | .statement | .object | .array => false

/-- An open frame. -/
structure Frame where
  mode : Mode := .block
  /-- The last token of the frame. -/
  last : Face := ⟨.openBrace, ""⟩
  /-- The last word of the frame. -/
  lastWord : String := ""
  /-- Whether it declares variables. -/
  declares : Bool := false
  /-- Whether the variable that is being declared has a value. -/
  assigns : Bool := false
  /-- Whether it spans lines. -/
  spansLines : Bool := false
  /-- Whether an `if` of it is open, so that an `else` may follow. -/
  hasIf : Bool := false
  /-- Whether the `else` of that `if` is open. -/
  hasElse : Bool := false
  /-- Whether a `do` of it is open, so that a `while` has to follow. -/
  hasDo : Bool := false
  /-- Whether the `while` of that `do` has followed. -/
  hasDoWhile : Bool := false
  /-- Whether an `import` of it is open. -/
  imports : Bool := false
  /-- Whether it is the block of a `switch`. -/
  isSwitch : Bool := false
  /-- Whether a label of a `switch` is being read. -/
  inLabel : Bool := false
  /-- Whether what a label stands for is being read. -/
  inLabelled : Bool := false
  /-- Whether a label stands for a block of its own. -/
  labelsBlock : Bool := false
  /-- The steps it is indented by. -/
  indent : Nat := 0
  /-- The blanks its rows are aligned by. -/
  alignment : Nat := 0
  /-- The steps the last indented row of it is indented by. -/
  rowIndent : Nat := 0
  /-- The first row behind the one it starts in. -/
  firstRow : Nat := 0
  /-- The conditional operators whose colon has not followed. -/
  openConditionals : Nat := 0
  deriving Repr, Inhabited

/-- A frame within another. Within a row that is indented further, it starts from that. -/
def Frame.within (outer : Frame) (mode : Mode) (startsRow : Bool) (firstRow : Nat) : Frame :=
  { mode, firstRow
    last := outer.last
    lastWord := outer.lastWord
    indent := if startsRow then outer.indent else max outer.indent outer.rowIndent }

end VmScan.Layout
