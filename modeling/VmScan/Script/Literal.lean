import VmScan.Script.Escape

/-!
# Gaps, strings and templates

How far the pieces of a script reach. Each function gets the text behind the start of a piece and
gives the number of characters that still belong to it, or the fault that it runs into.

* `gapLength` — white space and comments. `start` says that nothing but blanks and block comments
  stand before on the line, which lets an arrow of two hyphens open a comment.
* `stringLength` — a string behind its opening quote.
* `templateLength` — a piece of a template up to its closing backtick or to the substitution that
  follows.
-/

namespace VmScan.Script

/-! ## Gaps -/

/-- The length of a comment that ends with its line, the line end included. -/
def lineCommentLength : List Char → Nat
  | [] => 0
  | '\r' :: '\n' :: _ => 2
  | c :: cs => if isLineTerminator c then 1 else lineCommentLength cs + 1

/-- The length of a comment up to and with its closing mark. -/
def blockCommentLength? : List Char → Option Nat
  | [] => none
  | '*' :: '/' :: _ => some 2
  | _ :: cs => (blockCommentLength? cs).map (· + 1)

/-- What a gap goes on with: a blank, a line end or a comment, with its length. -/
inductive GapPart where
  | white
  | lineEnd
  | lineComment (length : Nat)
  | markupComment (length : Nat)
  | blockComment (length : Nat)
  | unclosedComment
  | none
  deriving DecidableEq, Repr

/-- The part of a gap at the start of the text. -/
def gapPart (start : Bool) : List Char → GapPart
  | '/' :: '/' :: cs => .lineComment (lineCommentLength cs + 2)
  | '/' :: '*' :: cs =>
    match blockCommentLength? cs with
    | some length => .blockComment (length + 2)
    | .none => .unclosedComment
  | '-' :: '-' :: '>' :: cs =>
    if start then .markupComment (lineCommentLength cs + 3) else .none
  | '<' :: '!' :: '-' :: '-' :: cs => .markupComment (lineCommentLength cs + 4)
  | c :: _ => if isWhite c then .white else if isLineTerminator c then .lineEnd else .none
  | [] => .none

/-- The length of a gap. -/
def gapLength (start : Bool) : List Char → Except Fault Nat
  | [] => .ok 0
  | c :: cs =>
    match gapPart start (c :: cs) with
    | .white => advance 1 (gapLength start cs)
    | .lineEnd => advance 1 (gapLength true cs)
    | .lineComment length => advance length (gapLength true (cs.drop (length - 1)))
    | .markupComment length => advance length (gapLength start (cs.drop (length - 1)))
    | .blockComment length => advance length (gapLength start (cs.drop (length - 1)))
    | .unclosedComment => .error ⟨.illegal, cs.length + 1⟩
    | .none => .ok 0
termination_by input => input.length
decreasing_by all_goals simp only [List.length_cons, List.length_drop]; omega

/-! ## Strings -/

/-- The length of a string behind its opening quote. -/
def stringLength (quote : Char) : List Char → Except Fault Nat
  | [] => .error ⟨.illegal, 0⟩
  | c :: cs =>
    if c = quote then .ok 1
    else if c = '\\' then
      match cs with
      | [] => .error ⟨.illegal, 1⟩
      | first :: rest =>
        match stringEscape first rest with
        | .error cause => .error ⟨cause, 1⟩
        | .ok length => advance (length + 2) (stringLength quote (rest.drop length))
    else if isLineTerminator c then .error ⟨.illegal, 0⟩
    else advance 1 (stringLength quote cs)
termination_by input => input.length
decreasing_by all_goals simp only [List.length_cons, List.length_drop]; omega

/-! ## Templates -/

/-- The length of a piece of a template behind its opening mark, with its closing mark. -/
def templateLength : List Char → Except Fault Nat
  | [] => .error ⟨.illegal, 0⟩
  | '\x60' :: _ => .ok 1
  | '$' :: '\x7b' :: _ => .ok 2
  | '\\' :: cs =>
    match cs with
    | [] => .error ⟨.illegal, 1⟩
    | first :: rest =>
      match templateEscape first rest with
      | .error cause => .error ⟨cause, 1⟩
      | .ok length => advance (length + 2) (templateLength (rest.drop length))
  | _ :: cs => advance 1 (templateLength cs)
termination_by input => input.length
decreasing_by all_goals simp only [List.length_cons, List.length_drop]; omega

end VmScan.Script
