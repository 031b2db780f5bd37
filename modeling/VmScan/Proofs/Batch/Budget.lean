import VmScan.Proofs.Batch.Fewest
import VmScan.Proofs.Listing.Written

/-!
# The budget counts what is sent

`create_batches` packs a group by the costs of its lines, each counted alone and with its line feed.
What is sent is one text with a line feed fewer, and its tokens are counted as a whole. The bound
carries over for every counter to which a text is worth no more than its parts.

* `Steady` — a counter that counts no text lower than its front, and none higher than its parts.

Results:
* `count_unlines_le`: joined lines count no more than the lines one by one.
* `forall₂_of_create`: each batch is made of a group of the lines.
* `steady_estimateTokens`: the estimate is steady, since rounding up is shared by the parts.
* `create_within_budget`: a batch of more than one line is within the budget.
-/

namespace VmScan.Batching

/-- A text counts no less than its front, and no more than its parts. -/
structure Steady (count : TokenCounter) : Prop where
  front_le (front rest : String) : count front ≤ count (front ++ rest)
  append_le (front rest : String) : count (front ++ rest) ≤ count front + count rest

theorem steady_estimateTokens : Steady estimateTokens where
  front_le front rest := by
    simp only [estimateTokens, String.length_append]
    omega
  append_le front rest := by
    simp only [estimateTokens, String.length_append]
    omega

section Counts

variable {count : TokenCounter}

/-- **Joined lines count no more than the lines one by one**, each with its line feed. -/
theorem Steady.count_unlines_le (hsteady : Steady count) {group : List String} (hne : group ≠ []) :
    count (Text.unlines group) ≤ (group.map (lineCost count)).sum := by
  induction group with
  | nil => exact absurd rfl hne
  | cons line group ih =>
    rw [List.map_cons, List.sum_cons]
    rcases eq_or_ne group [] with rfl | hgroup
    · -- the last line is sent without its line feed
      have hline : Text.unlines [line] = line := String.intercalate_singleton
      rw [hline]
      exact Nat.le_add_right_of_le (hsteady.front_le line "\n")
    · have hjoined : Text.unlines (line :: group) = line ++ "\n" ++ Text.unlines group :=
        String.intercalate_cons_of_ne_nil hgroup
      calc count (Text.unlines (line :: group))
          ≤ lineCost count line + count (Text.unlines group) := by
            rw [hjoined]
            exact hsteady.append_le (line ++ "\n") (Text.unlines group)
        _ ≤ lineCost count line + (group.map (lineCost count)).sum :=
            Nat.add_le_add_left (ih hgroup) _

/-- A group that fits is within the budget as a whole, or it is a single line that is over the
budget with its line feed. -/
theorem Fits.count_unlines (hsteady : Steady count) {budget : Nat} {group : List String}
    (hne : group ≠ []) (h : Fits (lineCost count) budget group) :
    (1 < group.length → count (Text.unlines group) ≤ budget) ∧
      (budget < count (Text.unlines group) →
        ∃ line, group = [line] ∧ budget < lineCost count line) := by
  have hcount := hsteady.count_unlines_le hne
  rcases h with hsingle | hsum
  · obtain ⟨line, rfl⟩ := List.length_eq_one_iff.mp hsingle
    rw [List.map_singleton, List.sum_singleton] at hcount
    exact ⟨fun hmany => absurd hsingle (Nat.ne_of_gt hmany), fun hover =>
      ⟨line, rfl, Nat.lt_of_lt_of_le hover hcount⟩⟩
  · have hwithin : count (Text.unlines group) ≤ budget := Nat.le_trans hcount hsum
    exact ⟨fun _ => hwithin, fun hover => absurd hwithin (Nat.not_le.mpr hover)⟩

end Counts

/-! ## From groups to batches -/

section Batches

variable {count : TokenCounter} {batch : Batch} {batches : List Batch}

/-- What is sent of a group is its lines joined, and its tokens are those of the joined text. -/
theorem of_ofGroup {group : List String} (h : Batch.ofGroup count group = .ok batch) :
    batch.content = Text.unlines group ∧ batch.tokenCount = count batch.content := by
  simp only [Batch.ofGroup, Batch.make, bind, Except.bind] at h
  split at h
  · cases h
  · split at h
    · cases h
    · split at h
      · cases h
        exact ⟨rfl, rfl⟩
      · cases h

theorem forall₂_of_mapM {groups : List (List String)}
    (h : groups.mapM (Batch.ofGroup count) = .ok batches) :
    List.Forall₂ (fun group batch => Batch.ofGroup count group = .ok batch) groups batches := by
  induction groups generalizing batches with
  | nil =>
    cases h
    exact .nil
  | cons group groups ih =>
    rw [List.mapM_cons] at h
    cases hgroup : Batch.ofGroup count group with
    | error fault => rw [hgroup] at h; cases h
    | ok batch =>
      cases hgroups : groups.mapM (Batch.ofGroup count) with
      | error fault => rw [hgroup, hgroups] at h; cases h
      | ok rest =>
        rw [hgroup, hgroups] at h
        cases h
        exact .cons hgroup (ih hgroups)

/-- **Each batch is made of a group of the lines**, and the groups divide the lines. -/
theorem forall₂_of_create {budget : Int} {lines : List String}
    (h : Batch.create count budget lines = .ok batches) :
    0 < budget ∧ ∃ groups, Division (lineCost count) budget.toNat lines groups ∧
      List.Forall₂ (fun group batch => Batch.ofGroup count group = .ok batch) groups batches := by
  unfold Batch.create Batch.split at h
  split_ifs at h with hbudget
  · cases h
  · exact ⟨Int.not_le.mp hbudget, _, division_pack _ _ lines, forall₂_of_mapM h⟩

end Batches

/-! ## Batches within the budget -/

/-- The batch sends the lines of the group, and its tokens are those of the text that is sent. With
more than one line it is within the budget; over the budget, it is a line that is over it alone. -/
structure Within (budget : Int) (group : List String) (batch : Batch) : Prop where
  content : batch.content = Text.unlines group
  tokenCount : batch.tokenCount = estimateTokens (Text.unlines group)
  many : 1 < group.length → batch.tokenCount ≤ budget
  beyond : budget < batch.tokenCount →
    ∃ line, group = [line] ∧ budget < lineCost estimateTokens line

/-- **Batches are within the budget as counted on what is sent.** Each batch is a group of the
lines, in order and none left out, and counts the tokens of the joined text. A batch of more than
one line is within the budget, and one that is over it is a single line that is over it with its
line feed. -/
theorem create_within_budget {budget : Int} {lines : List String} {batches : List Batch}
    (h : Batch.create estimateTokens budget lines = .ok batches) :
    ∃ groups : List (List String), groups.flatten = lines ∧ [] ∉ groups ∧
      List.Forall₂ (Within budget) groups batches := by
  obtain ⟨hpositive, groups, hdivision, hbatches⟩ := forall₂_of_create h
  obtain ⟨limit, rfl⟩ := Int.eq_ofNat_of_zero_le (Int.le_of_lt hpositive)
  refine ⟨groups, hdivision.joined, hdivision.occupied, ?_⟩
  rw [List.forall₂_iff_get] at hbatches ⊢
  refine ⟨hbatches.1, fun i hgroup hbatch => ?_⟩
  obtain ⟨hcontent, htokens⟩ := of_ofGroup (hbatches.2 i hgroup hbatch)
  have hmem : groups.get ⟨i, hgroup⟩ ∈ groups := List.get_mem groups ⟨i, hgroup⟩
  obtain ⟨hmany, hover⟩ := (hdivision.fits _ hmem).count_unlines steady_estimateTokens
    fun hnil => hdivision.occupied (hnil ▸ hmem)
  rw [hcontent] at htokens
  refine ⟨hcontent, htokens, ?_, ?_⟩
  · rw [htokens, Int.ofNat_le]
    exact hmany
  · simp only [htokens, Int.ofNat_lt]
    exact hover

/-- The written lines of three lines of code, of which the last is long. -/
def shortShortLong : List String :=
  (Listing.listing "a;\nb;\nfoo(bar, 1, 2, 3, 4, 5, 6, 7, 8, 9)" none).map (·.written)

/-- The two short lines fill a budget of ten together, and the long one is over it alone. -/
theorem create_within_budget_shortShortLong :
    ∃ batches, Batch.create estimateTokens 10 shortShortLong = .ok batches ∧
      batches.map (fun batch => (batch.start, batch.finish, batch.tokenCount))
        = [(1, 2, 10), (3, 3, 13)] ∧
      ∃ groups : List (List String), groups.flatten = shortShortLong ∧ [] ∉ groups ∧
        List.Forall₂ (Within 10) groups batches := by
  have hmade : (Batch.create estimateTokens 10 shortShortLong).toOption.map
      (List.map fun batch => (batch.start, batch.finish, batch.tokenCount))
        = some [(1, 2, 10), (3, 3, 13)] := by
    decide +kernel
  cases hcreate : Batch.create estimateTokens 10 shortShortLong with
  | error fault =>
    rw [hcreate] at hmade
    cases hmade
  | ok batches =>
    rw [hcreate] at hmade
    exact ⟨batches, rfl, Option.some.inj hmade, create_within_budget hcreate⟩

end VmScan.Batching
