import VmScan.Detection.Basic

/-!
# Merging the results of batches

The results of the batches of one script become one result.

* `Region.settle` — adds a region to the accepted ones: it meets the first accepted region with
  which it shares a line, and takes that one's place only if it is surer.
* `deduplicate` — settles the regions one after another in the order of their first lines
  (`deduplicate_regions`); of regions with one first line, the earlier stays in front.
* `merge` — numbers the summaries by batch, keeps the first named bytecode
  (`_first_named_bytecode`), and deduplicates the regions (`merge_detection_results`). A single
  result keeps its summary as it is.
-/

namespace VmScan.Detection

/-- The accepted regions once `region` has met the first of them with which it shares a line. -/
def Region.settle (region : Region) : List Region → List Region
  | [] => [region]
  | kept :: rest =>
    if kept.overlaps region then
      (if kept.confidence.rank < region.confidence.rank then region else kept) :: rest
    else kept :: region.settle rest

/-- The regions in the order of their first lines. -/
def sortByStart (regions : List Region) : List Region :=
  regions.mergeSort fun a b => a.start ≤ b.start

/-- The regions without those that share a line with an accepted one (`deduplicate_regions`). -/
def deduplicate (regions : List Region) : List Region :=
  (sortByStart regions).foldl (fun accepted region => region.settle accepted) []

/-- The advice of a merged result whose last summary gives none. -/
def defaultRecommendation : String :=
  "Refer to the per-batch analysis results for debugging."

/-- The advice in a summary. -/
def Summary.recommendation : Summary → String
  | .plain _ => defaultRecommendation
  | .advised _ recommendation => recommendation

/-- Whether the bytecode has a name that is not empty. -/
def Bytecode.isNamed (bytecode : Bytecode) : Bool :=
  bytecode.name.any (· ≠ "")

/-- The description of one batch, with its number in front. -/
def batchDescription (number : Nat) (result : Result) : String :=
  s!"[Batch {number}] {result.summary.text}"

/-- The descriptions of the results, numbered from one. -/
def mergedDescription (results : List Result) : String :=
  "\n".intercalate (results.mapIdx fun index result => batchDescription (index + 1) result)

/-- The first bytecode with a name (`_first_named_bytecode`). -/
def firstNamedBytecode (results : List Result) : Option Bytecode :=
  (results.filterMap (·.bytecode)).find? (·.isNamed)

/-- The summary of several results. -/
def mergedSummary (results : List Result) : Summary :=
  .advised (mergedDescription results)
    ((results.getLast?.map (·.summary.recommendation)).getD defaultRecommendation)

/-- The one result of a script (`merge_detection_results`). -/
def merge : List Result → Result
  | [] => { summary := .plain "" }
  | [only] => { only with regions := deduplicate only.regions }
  | results => {
      summary := mergedSummary results
      bytecode := firstNamedBytecode results
      regions := deduplicate (results.flatMap (·.regions)) }

end VmScan.Detection
