import VmScan.Listing

/-!
# Batches

The written lines of a listing in groups that fit a token budget.

* `estimateTokens` — the counter that needs no encoding (`EstimateTokenizer.count`).
* `packLines` — goes through the lines and closes a group when the next line no longer fits. A
  line that is over the budget alone makes a group of its own.
* `split` — the groups for a budget, which must be positive (`split_by_token_limit`). A line costs
  the tokens of its text and its line feed.
* `Batch` — a group with the range of its lines and its token count.
* `Batch.create` — the batches for a budget (`create_batches`).
-/

namespace VmScan

/-- Counts the tokens of a text. -/
abbrev TokenCounter := String → Nat

/-- The number of tokens as a quarter of the number of characters, rounded up. -/
def estimateTokens : TokenCounter := fun text => (text.length + 3) / 4

namespace Batching

/-- The group that is being gathered, if it holds anything. -/
def flush {α : Type} (pending : List α) : List (List α) :=
  if pending.isEmpty then [] else [pending]

/-- The groups of the items, behind the group `pending` of cost `used` that is being gathered. -/
def pack {α : Type} (cost : α → Nat) (budget : Nat) (pending : List α) (used : Nat) :
    List α → List (List α)
  | [] => flush pending
  | item :: items =>
    if budget < cost item then
      flush pending ++ [item] :: pack cost budget [] 0 items
    else if !pending.isEmpty && budget < used + cost item then
      pending :: pack cost budget [item] (cost item) items
    else pack cost budget (pending ++ [item]) (used + cost item) items

/-- The cost of a line with its line feed. -/
def lineCost (count : TokenCounter) (line : String) : Nat :=
  count (line ++ "\n")

/-- The groups of the lines within the budget. -/
def packLines (count : TokenCounter) (budget : Nat) (lines : List String) : List (List String) :=
  pack (lineCost count) budget [] 0 lines

end Batching

/-- Lines `start` to `finish` of a listing as one text. -/
structure Batch where
  start : Int
  finish : Int
  content : String
  tokenCount : Int
  ordered : start ≤ finish
  deriving DecidableEq

namespace Batch

open Batching

/-- Why lines cannot be put into batches. -/
inductive Fault where
  | budgetNotPositive
  | number (fault : Listing.NumberFault)
  | render (fault : Number.TextFault)
  | reversed (start finish : Int)
  deriving DecidableEq, Repr

/-- The message of a fault. -/
def Fault.message : Fault → String
  | .budgetNotPositive => "max_tokens must be a positive integer"
  | .number fault => fault.message
  | .render fault => fault.message
  | .reversed start finish => s!"batch start_line {start} is after end_line {finish}"

/-- The batch with the given parts, if its range does not end before it starts. -/
def make (start finish : Int) (content : String) (tokenCount : Int) : Except Fault Batch :=
  if ordered : start ≤ finish then .ok { start, finish, content, tokenCount, ordered }
  else .error (.reversed start finish)

/-- The range of lines as text. -/
def range (batch : Batch) : String :=
  s!"{batch.start}-{batch.finish}"

/-- The groups of the lines within the budget. -/
def split (count : TokenCounter) (budget : Int) (lines : List String) :
    Except Fault (List (List String)) :=
  if budget ≤ 0 then .error .budgetNotPositive
  else .ok (packLines count budget.toNat lines)

/-- The number at the start of a written line. -/
def numberOf (line : String) : Except Fault Int :=
  match Listing.lineNumber line with
  | .ok n => .ok n
  | .error fault => .error (.number fault)

/-- The batch of a group of written lines; its range is read from its first and last line. -/
def ofGroup (count : TokenCounter) (group : List String) : Except Fault Batch := do
  let start ← numberOf (group.headD "")
  let finish ← numberOf (group.getLastD "")
  let content := Text.unlines group
  make start finish content (count content)

/-- The batches of the written lines within the budget (`create_batches`). -/
def create (count : TokenCounter) (budget : Int) (lines : List String) :
    Except Fault (List Batch) := do
  let groups ← split count budget lines
  groups.mapM (ofGroup count)

end Batch

end VmScan
