import VmScan.Proofs.CommandLine.Tokens

/-!
# Command lines that ask for an analysis

A command line that asks for an analysis names a file and sets limits, in any order. Such a line is
read as what it says, unless it sets a limit that is not positive.

* `Limit`, `Part` — the limits, and what such a command line is made of.
* `Spells` — the parts name the file and set the limits of the options, each of them once.
* `AnalyzeArguments.AsksFor` — the arguments ask for the report as text, on the output.

Results:
* `readItems_parts`, `readItems_parts_refused`: reading goes from part to part, up to a limit that is
  refused.
* `ofTexts_parts`, `ofTexts_parts_refused`: the line is read where its limits are positive, and
  refused where one is not.
* `Spells.asksFor`: what is read is what the parts spell.
-/

namespace VmScan.CommandLine

/-! ## Asking for an analysis -/

/-- The limits of an analysis, as they are set on a command line. -/
inductive Limit where
  | start
  | finish
  | charLimit
  | maxTokens
  deriving DecidableEq

namespace Limit

/-- The name of the flag that sets the limit. -/
def flagName : Limit → String
  | .start => "--start-line"
  | .finish => "--end-line"
  | .charLimit => "--char-limit"
  | .maxTokens => "--max-tokens-per-batch"

/-- The limit in the options. -/
def value? (options : Options) : Limit → Option Int
  | .start => options.start
  | .finish => options.finish
  | .charLimit => options.charLimit
  | .maxTokens => options.maxTokens

/-- The arguments with the limit set. -/
def set (n : Int) (arguments : AnalyzeArguments) : Limit → AnalyzeArguments
  | .start => { arguments with start := some n }
  | .finish => { arguments with finish := some n }
  | .charLimit => { arguments with charLimit := some n }
  | .maxTokens => { arguments with maxTokens := some n }

/-- The flag that sets the limit. -/
def flag (limit : Limit) : Flag AnalyzeArguments :=
  valueFlag [limit.flagName] positive fun n arguments => limit.set n arguments

end Limit

/-- The flag that sets the format. -/
def formatFlag : Flag AnalyzeArguments :=
  valueFlag ["--format", "-f"] format fun format arguments => { arguments with format }

/-- The flag that asks for more to be told. -/
def verboseFlag : Flag AnalyzeArguments where
  names := ["--verbose", "-v"]
  effect := .switch fun arguments => { arguments with verbose := true }

/-- A part of a command line that asks for an analysis with a report as text. A value stands behind
its flag as the next text, or behind an equals sign. -/
inductive Part where
  | file (text : String)
  | limit (which : Limit) (n : Int) (isJoined : Bool)
  | textFormat (isJoined : Bool)
  | verbose (isShort : Bool)

namespace Part

/-- The texts of the part. -/
def texts : Part → List String
  | .file text => [text]
  | .limit which n isJoined => Grammar.spelled which.flagName (toString n) isJoined
  | .textFormat isJoined => Grammar.spelled "--format" "text" isJoined
  | .verbose isShort => [if isShort then "-v" else "--verbose"]

/-- The arguments with the part read. -/
def apply (arguments : AnalyzeArguments) : Part → AnalyzeArguments
  | .file text => { arguments with file := text }
  | .limit which n _ => which.set n arguments
  | .textFormat _ => { arguments with format := .text }
  | .verbose _ => { arguments with verbose := true }

/-- The texts of the part, with their tokens. -/
def items : Part → List (Grammar.Item AnalyzeArguments)
  | .file text => [(text, .word)]
  | .limit which n isJoined =>
    Grammar.spelledItems which.flag which.flagName (toString n) isJoined
  | .textFormat isJoined => Grammar.spelledItems formatFlag "--format" "text" isJoined
  | .verbose isShort =>
    let name := if isShort then "-v" else "--verbose"
    [(name, .flag verboseFlag name .absent)]

/-- The file is not written like a flag, and the number has not too many digits. -/
def Proper : Part → Prop
  | .file text => text.startsWith "-" = false
  | .limit _ n _ => (Nat.toDigits 10 n.natAbs).length ≤ Number.maxDigits
  | _ => True

/-- The limit is positive. -/
def isAccepted : Part → Bool
  | .limit _ n _ => 1 ≤ n
  | _ => true

/-- The file, if the part is one. -/
def file? : Part → Option String
  | .file text => some text
  | _ => none

/-- The value of the limit, if the part sets it. -/
def value? (which : Limit) : Part → Option Int
  | .limit other n _ => if other = which then some n else none
  | _ => none

end Part

theorem plain_analyzeGrammar : analyzeGrammar.Plain := Grammar.plain_of_all (by decide +kernel)

theorem flagNamed?_limit (which : Limit) :
    analyzeGrammar.flagNamed? which.flagName = some which.flag := by
  cases which <;> rfl

theorem startsWith_flagName (which : Limit) : which.flagName.startsWith "-" = true := by
  cases which <;> decide +kernel

/-- The texts of a part in front of others have its tokens in front of theirs. -/
theorem tokens_part {part : Part} (h : part.Proper) {rest : List String}
    {items : List (Grammar.Item AnalyzeArguments)} (hrest : analyzeGrammar.tokens rest = .ok items) :
    analyzeGrammar.tokens (part.texts ++ rest) = .ok (part.items ++ items) := by
  cases part with
  | file text =>
    have hword : text.startsWith "-" = false := h
    have hsep : text ≠ "--" := by
      rintro rfl
      exact absurd hword (by decide +kernel)
    exact Grammar.tokens_cons hsep (Grammar.token_word hword) hrest
  | limit which n isJoined =>
    have hname : which.flagName ≠ "--" := by cases which <;> decide
    exact Grammar.tokens_spelled plain_analyzeGrammar (startsWith_flagName which) hname
      (flagNamed?_limit which) (Grammar.toString_ne_separator n)
      (Grammar.token_toString plain_analyzeGrammar n) hrest isJoined
  | textFormat isJoined =>
    exact Grammar.tokens_spelled plain_analyzeGrammar (by decide +kernel) (by decide) rfl
      (by decide) (Grammar.token_word (by decide +kernel)) hrest isJoined
  | verbose isShort =>
    cases isShort with
    | true => exact Grammar.tokens_cons (by decide) (Grammar.token_name (by decide +kernel) rfl) hrest
    | false =>
      exact Grammar.tokens_cons (by decide) (Grammar.token_name (by decide +kernel) rfl) hrest

theorem tokens_parts {parts : List Part} (h : ∀ part ∈ parts, part.Proper) :
    analyzeGrammar.tokens (parts.flatMap (·.texts)) = .ok (parts.flatMap (·.items)) := by
  induction parts with
  | nil => rfl
  | cons part parts ih =>
    exact tokens_part (h part List.mem_cons_self)
      (ih fun other ho => h other (List.mem_cons_of_mem part ho))

/-- No part of the command line is a separator. -/
theorem not_separator_of_mem_items {parts : List Part} :
    ∀ item ∈ parts.flatMap (·.items), item.2 ≠ .separator := by
  intro item hitem
  obtain ⟨part, -, hmem⟩ := List.mem_flatMap.mp hitem
  cases part with
  | file text =>
    rw [List.mem_singleton.mp hmem]
    nofun
  | limit which n isJoined => exact Grammar.not_separator_of_mem_spelledItems hmem
  | textFormat isJoined => exact Grammar.not_separator_of_mem_spelledItems hmem
  | verbose isShort =>
    rw [List.mem_singleton.mp hmem]
    nofun

/-- A limit is set if it is positive, and refused if it is not. -/
theorem apply_limit {n : Int} (h : (Nat.toDigits 10 n.natAbs).length ≤ Number.maxDigits)
    (which : Limit) (arguments : AnalyzeArguments) :
    analyzeGrammar.apply arguments (which.flag, some (toString n)) =
      if 1 ≤ n then .ok (which.set n arguments)
      else .error (analyzeGrammar.refuseArgument which.flag.label
        s!"must be a positive integer: {n}") := by
  have hpositive : positive (toString n)
      = if n < 1 then .error s!"must be a positive integer: {n}" else .ok n := by
    rw [positive, Number.ofText_toString h]
    rfl
  unfold Grammar.apply
  simp only [Limit.flag, valueFlag, Option.getD_some, hpositive]
  by_cases hn : 1 ≤ n
  · rw [if_neg (by omega), if_pos hn]
    rfl
  · rw [if_pos (by omega), if_neg hn]
    rfl

/-- The progress behind a part. -/
def Part.behind (part : Part) (progress : Grammar.Progress AnalyzeArguments) :
    Grammar.Progress AnalyzeArguments :=
  { progress with
    settings := part.apply progress.settings
    placed := progress.placed || part.file?.isSome }

section Reading

variable {part : Part} {progress : Grammar.Progress AnalyzeArguments}
  {items : List (Grammar.Item AnalyzeArguments)}

/-- A part that is accepted is read. -/
theorem readItems_accepted (hproper : part.Proper) (haccepted : part.isAccepted = true)
    (hfree : part.file?.isSome = true → progress.placed = false)
    (hsep : ∀ item ∈ items, item.2 ≠ .separator) :
    analyzeGrammar.readItems progress [] (part.items ++ items)
      = analyzeGrammar.readItems (part.behind progress) [] items := by
  unfold Part.behind
  cases part with
  | file text =>
    refine (Grammar.readItems_word rfl (hfree rfl) hsep).trans ?_
    rw [Part.file?, Option.isSome_some, Bool.or_true]
    rfl
  | limit which n isJoined =>
    have hn : 1 ≤ n := of_decide_eq_true haccepted
    refine (Grammar.readItems_spelled rfl isJoined).trans ?_
    rw [apply_limit hproper, if_pos hn]
    simp [Part.file?, Part.apply]
  | textFormat isJoined =>
    refine (Grammar.readItems_spelled rfl isJoined).trans ?_
    have hformat : analyzeGrammar.apply progress.settings (formatFlag, some "text")
        = .ok { progress.settings with format := .text } := by rfl
    rw [hformat]
    simp [Part.file?, Part.apply]
  | verbose isShort =>
    refine (Grammar.readItems_flag (Grammar.uses_switch rfl) (Nat.le_refl _)).trans ?_
    have hverbose : analyzeGrammar.apply progress.settings (verboseFlag, none)
        = .ok { progress.settings with verbose := true } := by rfl
    rw [hverbose]
    simp [Part.file?, Part.apply]

/-- A limit that is not positive is refused. -/
theorem readItems_refused (hproper : part.Proper) (hrefused : part.isAccepted = false) :
    ∃ message, analyzeGrammar.readItems progress [] (part.items ++ items)
      = .error (analyzeGrammar.refuse message) := by
  cases part with
  | limit which n isJoined =>
    have hn : ¬ 1 ≤ n := of_decide_eq_false hrefused
    have hread : analyzeGrammar.readItems progress []
        ((Part.limit which n isJoined).items ++ items) = .error (analyzeGrammar.refuseArgument
          which.flag.label s!"must be a positive integer: {n}") := by
      refine (Grammar.readItems_spelled rfl isJoined).trans ?_
      rw [apply_limit hproper, if_neg hn]
    exact ⟨_, hread⟩
  | file | textFormat | verbose => cases hrefused

end Reading

/-! ## Whole command lines -/

section Lines

variable {parts : List Part} {progress : Grammar.Progress AnalyzeArguments}

/-- At most one file is still to be read, and none if one has been read. -/
def RoomFor (parts : List Part) (progress : Grammar.Progress AnalyzeArguments) : Prop :=
  progress.placed.toNat + (parts.filterMap Part.file?).length ≤ 1

theorem RoomFor.free {part : Part} (h : RoomFor (part :: parts) progress)
    (hfile : part.file?.isSome = true) : progress.placed = false := by
  obtain ⟨file, hfile⟩ := Option.isSome_iff_exists.mp hfile
  unfold RoomFor at h
  rw [List.filterMap_cons_some hfile, List.length_cons] at h
  cases hplaced : progress.placed with
  | false => rfl
  | true =>
    rw [hplaced, Bool.toNat_true] at h
    omega

theorem RoomFor.behind {part : Part} (h : RoomFor (part :: parts) progress) :
    RoomFor parts (part.behind progress) := by
  unfold RoomFor Part.behind at *
  cases hfile : part.file? with
  | none =>
    rw [List.filterMap_cons_none hfile] at h
    simpa using h
  | some file =>
    rw [List.filterMap_cons_some hfile, List.length_cons] at h
    simp only [Option.isSome_some, Bool.or_true, Bool.toNat_true]
    omega

/-- **Parts that are accepted are read**, in whatever order they stand. -/
theorem readItems_parts (hproper : ∀ part ∈ parts, part.Proper)
    (haccepted : ∀ part ∈ parts, part.isAccepted = true) (hroom : RoomFor parts progress) :
    analyzeGrammar.readItems progress [] (parts.flatMap (·.items))
      = .ok (parts.foldl (fun progress part => part.behind progress) progress, []) := by
  induction parts generalizing progress with
  | nil => rw [List.flatMap_nil, Grammar.readItems, List.foldl_nil]
  | cons part parts ih =>
    rw [List.flatMap_cons, List.foldl_cons, readItems_accepted (hproper part List.mem_cons_self)
      (haccepted part List.mem_cons_self) hroom.free not_separator_of_mem_items]
    exact ih (fun other ho => hproper other (List.mem_cons_of_mem part ho))
      (fun other ho => haccepted other (List.mem_cons_of_mem part ho)) hroom.behind

/-- The first limit that is not positive is refused. -/
theorem readItems_parts_refused (hproper : ∀ part ∈ parts, part.Proper)
    (hrefused : ∃ part ∈ parts, part.isAccepted = false) (hroom : RoomFor parts progress) :
    ∃ message, analyzeGrammar.readItems progress [] (parts.flatMap (·.items))
      = .error (analyzeGrammar.refuse message) := by
  induction parts generalizing progress with
  | nil =>
    obtain ⟨part, hpart, -⟩ := hrefused
    exact absurd hpart List.not_mem_nil
  | cons part parts ih =>
    have hself := hproper part List.mem_cons_self
    rw [List.flatMap_cons]
    cases haccepted : part.isAccepted with
    | false => exact readItems_refused hself haccepted
    | true =>
      rw [readItems_accepted hself haccepted hroom.free not_separator_of_mem_items]
      refine ih (fun other ho => hproper other (List.mem_cons_of_mem part ho)) ?_ hroom.behind
      obtain ⟨other, hother, hrefused⟩ := hrefused
      rcases List.mem_cons.mp hother with rfl | hrest
      · rw [haccepted] at hrefused
        cases hrefused
      · exact ⟨other, hrest, hrefused⟩

theorem foldl_behind :
    parts.foldl (fun progress part => part.behind progress) progress
      = { progress with
          settings := parts.foldl Part.apply progress.settings
          placed := progress.placed || !(parts.filterMap Part.file?).isEmpty } := by
  induction parts generalizing progress with
  | nil => simp
  | cons part parts ih =>
    rw [List.foldl_cons, ih, Part.behind]
    cases hfile : part.file? with
    | none => simp [List.filterMap_cons_none hfile]
    | some file => simp [List.filterMap_cons_some hfile]

variable {file : String}

theorem roomFor_of_file (hfile : parts.filterMap Part.file? = [file]) :
    RoomFor parts { settings := {} } := by
  unfold RoomFor
  rw [hfile]
  exact Nat.le_refl 1

/-- Parts that are accepted, a single file among them, give their arguments. -/
theorem read_parts (hproper : ∀ part ∈ parts, part.Proper)
    (haccepted : ∀ part ∈ parts, part.isAccepted = true)
    (hfile : parts.filterMap Part.file? = [file]) :
    analyzeGrammar.read {} (parts.flatMap (·.texts)) = .ok (parts.foldl Part.apply {}, []) := by
  unfold Grammar.read
  rw [tokens_parts hproper]
  simp only [bind, Except.bind]
  rw [readItems_parts hproper haccepted (roomFor_of_file hfile), foldl_behind, hfile]
  rfl

/-- Parts of which one is refused, a single file among them, stop with a message. -/
theorem read_parts_refused (hproper : ∀ part ∈ parts, part.Proper)
    (hrefused : ∃ part ∈ parts, part.isAccepted = false)
    (hfile : parts.filterMap Part.file? = [file]) :
    ∃ message, analyzeGrammar.read {} (parts.flatMap (·.texts))
      = .error (analyzeGrammar.refuse message) := by
  obtain ⟨message, hread⟩ := readItems_parts_refused hproper hrefused (roomFor_of_file hfile)
  refine ⟨message, ?_⟩
  unfold Grammar.read
  rw [tokens_parts hproper]
  simp only [bind, Except.bind]
  rw [hread]

/-! ## The program -/

theorem plain_programGrammar : programGrammar.Plain := Grammar.plain_of_all (by decide +kernel)

theorem exists_eq_ok_of_isOk {ε α : Type} {result : Except ε α} (h : result.isOk = true) :
    ∃ a, result = .ok a := by
  cases result with
  | error fault => cases h
  | ok a => exact ⟨a, rfl⟩

theorem exists_token_spelled {name value : String} (hname : name ≠ "--") (hvalue : value ≠ "--")
    (hdashes : name.startsWith "--" = true) (hequals : '=' ∉ name.toList)
    (hnone : ∀ entry ∈ programGrammar.namedFlags,
      name.toList.isPrefixOf entry.1.toList = false)
    (halone : (programGrammar.token name).isOk = true)
    (hword : programGrammar.token value = .ok .word) (isJoined : Bool) :
    ∀ text ∈ Grammar.spelled name value isJoined,
      text ≠ "--" ∧ ∃ token, programGrammar.token text = .ok token := by
  intro text htext
  cases isJoined with
  | true =>
    rw [List.mem_singleton.mp htext]
    exact ⟨Grammar.ne_separator_of_equals (by simp),
      Grammar.exists_token_joined plain_programGrammar hdashes hequals hnone⟩
  | false =>
    rcases List.mem_cons.mp htext with rfl | hrest
    · exact ⟨hname, exists_eq_ok_of_isOk halone⟩
    · rw [List.mem_singleton.mp hrest]
      exact ⟨hvalue, _, hword⟩

/-- The program takes the texts of a part as they are, for the command to read them. -/
theorem exists_token_part {part : Part} (h : part.Proper) :
    ∀ text ∈ part.texts, text ≠ "--" ∧ ∃ token, programGrammar.token text = .ok token := by
  cases part with
  | file text =>
    intro other hother
    rw [List.mem_singleton.mp hother]
    have hword : text.startsWith "-" = false := h
    refine ⟨?_, _, Grammar.token_word hword⟩
    rintro rfl
    exact absurd hword (by decide +kernel)
  | limit which n isJoined =>
    have hvalue := Grammar.toString_ne_separator n
    have hword := Grammar.token_toString plain_programGrammar n
    cases which <;>
      exact exists_token_spelled (by decide) hvalue (by decide +kernel) (by decide)
        (by decide +kernel) (by decide +kernel) hword isJoined
  | textFormat isJoined =>
    exact exists_token_spelled (by decide) (by decide) (by decide +kernel) (by decide)
      (by decide +kernel) (by decide +kernel) (Grammar.token_word (by decide +kernel)) isJoined
  | verbose isShort =>
    intro text htext
    rw [List.mem_singleton.mp htext]
    cases isShort with
    | true => exact ⟨by decide, exists_eq_ok_of_isOk (by decide +kernel)⟩
    | false => exact ⟨by decide, exists_eq_ok_of_isOk (by decide +kernel)⟩

/-- The texts of a command line have tokens for the program, the first of them a word. -/
theorem exists_tokens_parts (hproper : ∀ part ∈ parts, part.Proper) :
    ∃ items, programGrammar.tokens ("analyze" :: parts.flatMap (·.texts))
        = .ok (("analyze", .word) :: items) ∧ items.map (·.1) = parts.flatMap (·.texts) := by
  obtain ⟨items, hitems, hmap⟩ : ∃ items,
      programGrammar.tokens (parts.flatMap (·.texts)) = .ok items ∧
        items.map (·.1) = parts.flatMap (·.texts) := by
    refine Grammar.exists_tokens fun text htext => ?_
    obtain ⟨part, hpart, hmem⟩ := List.mem_flatMap.mp htext
    exact exists_token_part (hproper part hpart) text hmem
  exact ⟨items, Grammar.tokens_cons (by decide) (Grammar.token_word (by decide +kernel)) hitems,
    hmap⟩

/-- The name of the command takes everything behind it along. -/
theorem readItems_analyze (items : List (Grammar.Item ProgramArguments)) :
    programGrammar.readItems { settings := {} } [] (("analyze", .word) :: items)
      = (analyzeGrammar.read {} (items.map (·.1))).map fun (arguments, extras) =>
          ({ settings := { command := some (.analyze arguments) }, placed := true }, extras) := by
  have hplace : programGrammar.place {} ("analyze" :: items.map (·.1))
      = (analyzeGrammar.read {} (items.map (·.1))).map fun (arguments, extras) =>
          ({ command := some (.analyze arguments) }, extras) := by
    show (readCommand "analyze" (items.map (·.1))).map _ = _
    rw [readCommand, if_pos rfl]
    cases analyzeGrammar.read {} (items.map (·.1)) <;> rfl
  have htake : programGrammar.takePositional (("analyze", .word) :: items)
      = some ("analyze" :: items.map (·.1), []) := by
    unfold Grammar.takePositional
    rfl
  rw [Grammar.readItems]
  simp only [Bool.false_eq_true, if_false, htake, hplace]
  cases analyzeGrammar.read {} (items.map (·.1)) with
  | error stop => rfl
  | ok given =>
    show (if 0 < items.length + 1 then _ else _) = _
    rw [if_pos (Nat.succ_pos _), Grammar.readItems, List.nil_append]
    rfl

/-- **A command line that asks for an analysis** is read as one, where its limits are positive. -/
theorem ofTexts_parts (hproper : ∀ part ∈ parts, part.Proper)
    (haccepted : ∀ part ∈ parts, part.isAccepted = true)
    (hfile : parts.filterMap Part.file? = [file]) :
    Invocation.ofTexts ("analyze" :: parts.flatMap (·.texts))
      = .run (.analyze (parts.foldl Part.apply {})) := by
  obtain ⟨items, hitems, hmap⟩ := exists_tokens_parts hproper
  have hread := readItems_analyze items
  rw [hmap, read_parts hproper haccepted hfile] at hread
  unfold Invocation.ofTexts Grammar.readAll Grammar.read
  rw [hitems]
  simp only [bind, Except.bind]
  rw [hread]
  rfl

/-- A command line with a limit that is not positive is refused. -/
theorem ofTexts_parts_refused (hproper : ∀ part ∈ parts, part.Proper)
    (hrefused : ∃ part ∈ parts, part.isAccepted = false)
    (hfile : parts.filterMap Part.file? = [file]) :
    ∃ usage program message, Invocation.ofTexts ("analyze" :: parts.flatMap (·.texts))
      = .refuse usage program message := by
  obtain ⟨items, hitems, hmap⟩ := exists_tokens_parts hproper
  obtain ⟨message, hstop⟩ := read_parts_refused hproper hrefused hfile
  have hread := readItems_analyze items
  rw [hmap, hstop] at hread
  refine ⟨analyzeGrammar.usage, analyzeGrammar.program, message, ?_⟩
  unfold Invocation.ofTexts Grammar.readAll Grammar.read
  rw [hitems]
  simp only [bind, Except.bind]
  rw [hread]
  rfl

end Lines

/-! ## What a command line asks for -/

/-- The parts name the file and set the limits of the options, each of them once. -/
structure Spells (parts : List Part) (file : String) (options : Options) : Prop where
  file : parts.filterMap Part.file? = [file]
  limit : ∀ which : Limit, parts.filterMap (Part.value? which) = (which.value? options).toList

/-- The arguments ask for the report on the file as text, on the output. -/
structure AnalyzeArguments.AsksFor (arguments : AnalyzeArguments) (file : String)
    (options : Options) : Prop where
  file : arguments.file = file
  options : arguments.options = options
  format : arguments.format = .text
  output : arguments.output = none

/-- Every limit that the options set is positive. -/
def Limit.Positive (options : Options) : Prop :=
  ∀ which n, Limit.value? options which = some n → 1 ≤ n

/-- What a part sets stays until another part sets it. -/
theorem foldl_apply {β : Type} (get : AnalyzeArguments → β) (pick : Part → Option β)
    (h : ∀ arguments (part : Part), get (part.apply arguments) = (pick part).getD (get arguments))
    (parts : List Part) (arguments : AnalyzeArguments) :
    get (parts.foldl Part.apply arguments)
      = (parts.filterMap pick).getLast?.getD (get arguments) := by
  induction parts generalizing arguments with
  | nil => rfl
  | cons part parts ih =>
    rw [List.foldl_cons, ih, h]
    cases hpick : pick part with
    | none => rw [List.filterMap_cons_none hpick, Option.getD_none]
    | some value => rw [List.filterMap_cons_some hpick, List.getLast?_cons, Option.getD_some,
        Option.getD_some]

/-- No part sets another format or an output. -/
theorem foldl_apply_text (parts : List Part) (arguments : AnalyzeArguments)
    (hformat : arguments.format = .text) (houtput : arguments.output = none) :
    (parts.foldl Part.apply arguments).format = .text ∧
      (parts.foldl Part.apply arguments).output = none := by
  induction parts generalizing arguments with
  | nil => exact ⟨hformat, houtput⟩
  | cons part parts ih =>
    refine ih (part.apply arguments) ?_ ?_
    · cases part with
      | limit which => cases which <;> exact hformat
      | textFormat => rfl
      | file | verbose => exact hformat
    · cases part with
      | limit which => cases which <;> exact houtput
      | file | textFormat | verbose => exact houtput

theorem file_apply (arguments : AnalyzeArguments) (part : Part) :
    (part.apply arguments).file = part.file?.getD arguments.file := by
  cases part with
  | limit which => cases which <;> rfl
  | file | textFormat | verbose => rfl

theorem value?_apply (which : Limit) (arguments : AnalyzeArguments) (part : Part) :
    which.value? (part.apply arguments).options
      = ((part.value? which).map some).getD (which.value? arguments.options) := by
  cases part with
  | limit other n => cases other <;> cases which <;> rfl
  | file | textFormat | verbose => rfl

theorem options_ext {options options' : Options}
    (h : ∀ which : Limit, which.value? options = which.value? options') : options = options' := by
  cases options
  cases options'
  exact Options.mk.injEq .. ▸ ⟨h .start, h .finish, h .charLimit, h .maxTokens⟩

namespace Spells

variable {parts : List Part} {file : String} {options : Options} (h : Spells parts file options)
include h

/-- **What is read is what the parts spell.** -/
theorem asksFor : (parts.foldl Part.apply {}).AsksFor file options := by
  obtain ⟨hformat, houtput⟩ := foldl_apply_text parts {} rfl rfl
  refine ⟨?_, options_ext fun which => ?_, hformat, houtput⟩
  · rw [foldl_apply AnalyzeArguments.file Part.file? file_apply, h.file]
    rfl
  · have hvalue := foldl_apply (fun arguments => which.value? arguments.options)
      (fun part => (part.value? which).map some) (value?_apply which) parts {}
    have hpicked : parts.filterMap (fun part => (part.value? which).map some)
        = (which.value? options).toList.map some := by
      rw [← h.limit which, List.map_filterMap]
    rw [hvalue, hpicked]
    cases hset : which.value? options <;> cases which <;> rfl

theorem value?_of_mem {which : Limit} {n : Int} {isJoined : Bool}
    (hpart : Part.limit which n isJoined ∈ parts) : which.value? options = some n := by
  have hmem : n ∈ parts.filterMap (Part.value? which) :=
    List.mem_filterMap.mpr ⟨_, hpart, if_pos rfl⟩
  rw [h.limit which, Option.mem_toList] at hmem
  exact hmem

theorem exists_mem_of_value? {which : Limit} {n : Int} (hset : which.value? options = some n) :
    ∃ isJoined, Part.limit which n isJoined ∈ parts := by
  have hmem : n ∈ parts.filterMap (Part.value? which) := by
    rw [h.limit which, hset, Option.toList_some]
    exact List.mem_singleton_self n
  obtain ⟨part, hpart, hvalue⟩ := List.mem_filterMap.mp hmem
  cases part with
  | limit other m isJoined =>
    obtain ⟨rfl, hn⟩ := Option.ite_none_right_eq_some.mp hvalue
    obtain rfl := Option.some.inj hn
    exact ⟨isJoined, hpart⟩
  | file | textFormat | verbose => cases hvalue

/-- The parts are proper where the file and the values of the limits are. -/
theorem proper (hfile : file.startsWith "-" = false)
    (hdigits : ∀ which n, Limit.value? options which = some n →
      (Nat.toDigits 10 n.natAbs).length ≤ Number.maxDigits) :
    ∀ part ∈ parts, part.Proper := by
  intro part hpart
  cases part with
  | file text =>
    have hmem : text ∈ parts.filterMap Part.file? := List.mem_filterMap.mpr ⟨_, hpart, rfl⟩
    rw [h.file, List.mem_singleton] at hmem
    exact hmem ▸ hfile
  | limit which n isJoined => exact hdigits which n (h.value?_of_mem hpart)
  | textFormat | verbose => trivial

/-- The parts are accepted where the limits are positive. -/
theorem accepted (hpositive : Limit.Positive options) : ∀ part ∈ parts, part.isAccepted = true := by
  intro part hpart
  cases part with
  | limit which n isJoined => exact decide_eq_true (hpositive which n (h.value?_of_mem hpart))
  | file | textFormat | verbose => rfl

/-- A limit that is not positive stands in a part that is refused. -/
theorem refused (hnot : ¬ Limit.Positive options) : ∃ part ∈ parts, part.isAccepted = false := by
  simp only [Limit.Positive, not_forall] at hnot
  obtain ⟨which, n, hset, hn⟩ := hnot
  obtain ⟨isJoined, hpart⟩ := h.exists_mem_of_value? hset
  exact ⟨_, hpart, decide_eq_false hn⟩

end Spells

end VmScan.CommandLine
