import VmScan.Proofs.Detection.Grammar
import VmScan.Proofs.Json.Blanks

/-!
# Responses in a fence

A model may wrap its response into a code fence, which `_strip_fences` takes off. The closing fence
is the one at the end of the whole text, so whatever the response holds, fences and line feeds in
its strings among it, the text inside is the response, with other blanks around it at most.

* `FenceTag` — what may stand behind the opening fence.
* `Fence` — a fence, and the blanks around it and inside it.

Results:
* `strip_amid_blanks`: a text without the blanks around it.
* `Fence.insideFence?_wrap`: the text inside a fence is the response amid blanks.
* `parse_wrap`: a response in a fence is read as the response.
-/

namespace VmScan

namespace Text

variable {before after middle : List Char} {first last : Char}

theorem dropTrailingBlanks_append (hafter : ∀ c ∈ after, isBlank c = true)
    (hlast : isBlank last = false) :
    dropTrailingBlanks (middle ++ last :: after) = middle ++ [last] := by
  have hblank : ∀ c ∈ after.reverse, isBlank c = true := fun c hc =>
    hafter c (List.mem_reverse.mp hc)
  rw [dropTrailingBlanks, List.reverse_append, List.reverse_cons, List.append_assoc,
    List.dropWhile_append_of_pos hblank, List.singleton_append,
    List.dropWhile_cons_of_neg (by simp [hlast]), List.reverse_cons, List.reverse_reverse]

/-- A text between two characters that are not blank, without the blanks around it. -/
theorem strip_amid_blanks (hbefore : ∀ c ∈ before, isBlank c = true)
    (hafter : ∀ c ∈ after, isBlank c = true) (hfirst : isBlank first = false)
    (hlast : isBlank last = false) :
    strip (before ++ (first :: middle ++ last :: after)) = first :: middle ++ [last] := by
  rw [strip, List.dropWhile_append_of_pos hbefore, List.cons_append,
    List.dropWhile_cons_of_neg (by simp [hfirst]), ← List.cons_append]
  exact dropTrailingBlanks_append hafter hlast

end Text

namespace Detection

open VmScan.Json

/-- The tags that a fence may carry. -/
inductive FenceTag where
  | none
  | lower
  | upper
  deriving DecidableEq, Repr

/-- The letters of the tag. -/
def FenceTag.letters : FenceTag → List Char
  | .none => []
  | .lower => ['j', 's', 'o', 'n']
  | .upper => ['J', 'S', 'O', 'N']

/-- The mark that opens and closes a fence. -/
def fenceMark : List Char := ['\x60', '\x60', '\x60']

/-- A fence, with the blanks before and after it, those that end its first line, and those in front
of the closing mark. -/
structure Fence where
  before : List Char
  tag : FenceTag
  lineEnd : List Char
  closing : List Char
  after : List Char
  before_blank : ∀ c ∈ before, Text.isBlank c = true
  lineEnd_blanks : IsBlanks lineEnd
  lineEnd_feed : '\n' ∈ lineEnd
  closing_blanks : IsBlanks closing
  after_blank : ∀ c ∈ after, Text.isBlank c = true

/-- The text with the fence around it. -/
def Fence.wrap (fence : Fence) (text : List Char) : List Char :=
  fence.before ++ (fenceMark ++ (fence.tag.letters ++ (fence.lineEnd ++ (text ++ (fence.closing
    ++ (fenceMark ++ fence.after))))))

section Inside

variable {runtime : Runtime} {text : List Char} {value : Value}

theorem isBlank_of_visible {c : Char} (h : IsVisible c) : Text.isBlank c = false := by
  obtain ⟨hlow, hhigh⟩ := h
  simp only [Text.isBlank, Bool.or_eq_false_iff, Bool.and_eq_false_iff, decide_eq_false_iff_not,
    beq_eq_false_iff_ne]
  omega

theorem isBlank_of_json {c : Char} (h : Json.isBlank c = true) : Text.isBlank c = true := by
  simp only [Json.isBlank, Bool.or_eq_true, decide_eq_true_eq] at h
  obtain ((rfl | rfl) | rfl) | rfl := h <;> decide

/-- The letters of a tag are dropped, and nothing else in front of blanks. -/
theorem dropFenceTag_letters (tag : FenceTag) {blanks : List Char} (h : IsBlanks blanks)
    (hne : blanks ≠ []) (rest : List Char) :
    dropFenceTag (tag.letters ++ (blanks ++ rest)) = blanks ++ rest := by
  obtain ⟨c, cs, rfl⟩ := List.exists_cons_of_ne_nil hne
  have hc := h c List.mem_cons_self
  cases tag with
  | none =>
    unfold dropFenceTag
    split
    · next heq => 
      obtain rfl : c = 'j' := (List.cons.inj heq).1
      exact absurd hc (by decide)
    · next heq => 
      obtain rfl : c = 'J' := (List.cons.inj heq).1
      exact absurd hc (by decide)
    · rfl
  | lower => rfl
  | upper => rfl

theorem dropClosingFence?_append (inside : List Char) :
    dropClosingFence? (inside ++ fenceMark) = some inside := by
  rw [dropClosingFence?, List.reverse_append]
  exact congrArg some (List.reverse_reverse inside)

/-- Of the blanks with a line feed in front of another character, some are kept. -/
theorem exists_behindBlankLine? {blanks : List Char} {c : Char} (h : IsBlanks blanks)
    (hfeed : '\n' ∈ blanks) (hc : Text.isBlank c = false) (rest : List Char) :
    ∃ kept, IsBlanks kept ∧ behindBlankLine? (blanks ++ c :: rest) = some (kept ++ c :: rest) := by
  have hblank : ∀ d ∈ blanks, Text.isBlank d = true := fun d hd => isBlank_of_json (h d hd)
  have hstop : ¬ Text.isBlank c = true := by simp [hc]
  refine ⟨(blanks.reverse.takeWhile (· ≠ '\n')).reverse, fun d hd => h d ?_, ?_⟩
  · exact List.mem_reverse.mp ((List.takeWhile_sublist _).subset (List.mem_reverse.mp hd))
  · unfold behindBlankLine?
    simp only [List.takeWhile_append_of_pos hblank, List.dropWhile_append_of_pos hblank,
      List.takeWhile_cons_of_neg hstop, List.dropWhile_cons_of_neg hstop, List.append_nil,
      List.contains_iff_mem.mpr hfeed, if_true]

/-- What stands between the marks, with the marks and without the blanks around them. -/
theorem Fence.strip_wrap (fence : Fence) (text : List Char) :
    Text.strip (fence.wrap text) = fenceMark
      ++ (fence.tag.letters ++ (fence.lineEnd ++ (text ++ (fence.closing ++ fenceMark)))) := by
  have hwrap : fence.wrap text = fence.before ++ ('\x60' :: ('\x60' :: '\x60' ::
      (fence.tag.letters ++ (fence.lineEnd ++ (text ++ (fence.closing ++ ['\x60', '\x60'])))))
        ++ '\x60' :: fence.after) := by
    simp only [Fence.wrap, fenceMark, List.append_assoc, List.cons_append, List.nil_append]
  rw [hwrap, Text.strip_amid_blanks fence.before_blank fence.after_blank (by decide) (by decide)]
  simp only [fenceMark, List.append_assoc, List.cons_append, List.nil_append]

/-- **The text inside a fence is the response amid blanks.** -/
theorem Fence.insideFence?_wrap (fence : Fence) (h : decode runtime text = .ok value) :
    ∃ lead, IsBlanks lead ∧
      insideFence? (fence.wrap text) = some (lead ++ (skipBlank text ++ fence.closing)) := by
  obtain ⟨-, rest, hread, -⟩ := decode_eq_ok_iff.mp h
  obtain ⟨c, cs, hstart, hvisible⟩ := hread.visible
  have hne : fence.lineEnd ≠ [] := List.ne_nil_of_mem fence.lineEnd_feed
  -- the blanks that end the first line go on with those in front of the response
  have hblanks : IsBlanks (fence.lineEnd ++ text.takeWhile Json.isBlank) := fun d hd =>
    (List.mem_append.mp hd).elim (fence.lineEnd_blanks d) List.mem_takeWhile_imp
  have htext : fence.lineEnd ++ (text ++ (fence.closing ++ fenceMark))
      = (fence.lineEnd ++ text.takeWhile Json.isBlank)
        ++ c :: (cs ++ (fence.closing ++ fenceMark)) := by
    conv => lhs; rw [← List.takeWhile_append_dropWhile (p := Json.isBlank) (l := text)]
    rw [← skipBlank, hstart]
    simp only [List.append_assoc, List.cons_append]
  obtain ⟨lead, hlead, hline⟩ := exists_behindBlankLine? hblanks
    (List.mem_append_left _ fence.lineEnd_feed) (isBlank_of_visible hvisible)
    (cs ++ (fence.closing ++ fenceMark))
  have hinside : lead ++ c :: (cs ++ (fence.closing ++ fenceMark))
      = lead ++ (skipBlank text ++ fence.closing) ++ fenceMark := by
    rw [hstart]
    simp only [List.append_assoc, List.cons_append]
  refine ⟨lead, hlead, ?_⟩
  rw [insideFence?, fence.strip_wrap]
  simp only [fenceMark, List.cons_append, List.nil_append]
  rw [dropFenceTag_letters fence.tag fence.lineEnd_blanks hne, ← fenceMark, htext, hline,
    Option.bind_some, hinside, dropClosingFence?_append]

end Inside

/-- **A response in a fence is read as the response**, whatever its strings hold. -/
theorem parse_wrap {runtime : Runtime} (fence : Fence) {response : String} {result : Result}
    (hopen : insideFence? response.toList = none) (h : parse runtime response = .ok result) :
    parse runtime (String.ofList (fence.wrap response.toList)) = .ok result := by
  obtain ⟨value, hdecode, hvalue⟩ := decode_of_parse h
  rw [stripFence, hopen, Option.getD_none] at hdecode
  obtain ⟨lead, hlead, hinside⟩ := fence.insideFence?_wrap hdecode
  rw [parse_of_decode, hvalue]
  rw [String.toList_ofList, stripFence, hinside, Option.getD_some]
  exact decode_amid_blanks hdecode hlead fence.closing_blanks

/-- A response whose summary is a whole fenced block. -/
def fencedSummary : String :=
  "\n \x7b\"summary\": \"```json\\n\x7b\x7d\\n```\", \"regions\": []\x7d"

/-- A fence with several line feeds in each run of blanks. -/
def wideFence : Fence where
  before := [' ', '\n']
  tag := .lower
  lineEnd := ['\t', '\r', '\n', '\n', ' ']
  closing := ['\n', '\n']
  after := ['\n', Char.ofNat 0x3000]
  before_blank := List.all_eq_true.mp rfl
  lineEnd_blanks := List.all_eq_true.mp rfl
  lineEnd_feed := by decide
  closing_blanks := List.all_eq_true.mp rfl
  after_blank := List.all_eq_true.mp rfl

/-- The fence at the ends is taken off, and the one in the summary is kept. -/
theorem parse_wrap_fencedSummary :
    insideFence? fencedSummary.toList = none ∧
      parse .usual fencedSummary
        = .ok { summary := .plain "```json\n\x7b\x7d\n```", regions := [] } ∧
      parse .usual (String.ofList (wideFence.wrap fencedSummary.toList))
        = .ok { summary := .plain "```json\n\x7b\x7d\n```", regions := [] } :=
  have hopen : insideFence? fencedSummary.toList = none := by decide +kernel
  have hparse : parse .usual fencedSummary
      = .ok { summary := .plain "```json\n\x7b\x7d\n```", regions := [] } := by decide +kernel
  ⟨hopen, hparse, parse_wrap wideFence hopen hparse⟩

end Detection

end VmScan
