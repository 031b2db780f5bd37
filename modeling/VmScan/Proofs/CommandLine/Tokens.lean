import Mathlib.Data.List.TakeWhile
import VmScan.CommandLine.Program
import VmScan.Proofs.Number.Decimal

/-!
# Texts of a command line and their tokens

A text of a command line is a word, or it names a flag; the value of a flag stands behind its name
as the next text, or in one text with it behind an equals sign.

* `Grammar.Plain` — no name of a flag holds an equals sign or a digit, so that a number or a flag
  with its value is never taken for a name.
* `Grammar.spelled`, `Grammar.spelledItems` — a flag with its value, as texts and as tokens.

Results:
* `Grammar.token_append`: what stands in front of an equals sign decides about a text.
* `Grammar.token_toString`: a written integer is a word, also where it starts with a dash.
* `Grammar.tokens_spelled`: a flag with its value has its tokens, however it is written.
* `Grammar.readItems_spelled`, `Grammar.readItems_word`: what reading does with them.
-/

namespace VmScan.CommandLine

namespace Grammar

variable {σ : Type} {grammar : Grammar σ}

/-! ## Texts and tokens -/

/-- No name of a flag holds an equals sign or a digit. -/
def Plain (grammar : Grammar σ) : Prop :=
  ∀ entry ∈ grammar.namedFlags, ∀ c ∈ entry.1.toList, c ≠ '=' ∧ c.isDigit = false

theorem plain_of_all (h : (grammar.namedFlags.all fun entry =>
    entry.1.toList.all fun c => c != '=' && !c.isDigit) = true) : Plain grammar := by
  intro entry hentry c hc
  have hplain := List.all_eq_true.mp (List.all_eq_true.mp h entry hentry) c hc
  rwa [Bool.and_eq_true, bne_iff_ne, Bool.not_eq_true'] at hplain

theorem startsWith_dash_iff {text : String} :
    text.startsWith "-" = true ↔ ∃ rest, text.toList = '-' :: rest := by
  rw [String.startsWith_string_iff]
  constructor
  · rintro ⟨rest, hrest⟩
    exact ⟨rest, hrest.symm⟩
  · rintro ⟨rest, hrest⟩
    exact ⟨rest, hrest.symm⟩

theorem mem_namedFlags_of_flagNamed? {name : String} {flag : Flag σ}
    (h : grammar.flagNamed? name = some flag) : (name, flag) ∈ grammar.namedFlags := by
  have hmem := List.mem_of_find?_eq_some h
  have hname := List.find?_some h
  rw [decide_eq_true_eq] at hname
  exact List.mem_flatMap.mpr ⟨flag, hmem, List.mem_map_of_mem hname⟩

/-- A text with an equals sign or a digit is no name of a flag. -/
theorem Plain.flagNamed?_eq_none (h : Plain grammar) {text : String} {c : Char}
    (hc : c ∈ text.toList) (hmark : c = '=' ∨ c.isDigit = true) :
    grammar.flagNamed? text = none := by
  rw [Option.eq_none_iff_forall_ne_some]
  intro flag hflag
  obtain ⟨hequals, hdigit⟩ := h _ (mem_namedFlags_of_flagNamed? hflag) c hc
  rcases hmark with rfl | hmark
  · exact hequals rfl
  · rw [hmark] at hdigit
    cases hdigit

theorem token_word {text : String} (h : text.startsWith "-" = false) :
    grammar.token text = .ok .word := by
  rw [token, h]
  rfl

/-- The name of a flag is the flag. -/
theorem token_name {name : String} {flag : Flag σ} (hdash : name.startsWith "-" = true)
    (hflag : grammar.flagNamed? name = some flag) :
    grammar.token name = .ok (.flag flag name .absent) := by
  rw [token, hdash, hflag]
  rfl

theorem splitEquals?_append {name value : String} (h : '=' ∉ name.toList) :
    splitEquals? (name ++ "=" ++ value) = some (name, value) := by
  have htext : (name ++ "=" ++ value).toList = name.toList ++ '=' :: value.toList := by
    rw [String.toList_append, String.toList_append, List.append_assoc]
    rfl
  have hfront : ∀ c ∈ name.toList, decide (c ≠ '=') = true := fun c hc =>
    decide_eq_true fun he => h (he ▸ hc)
  rw [splitEquals?, htext, List.dropWhile_append_of_pos hfront,
    List.dropWhile_cons_of_neg (by decide), List.takeWhile_append_of_pos hfront,
    List.takeWhile_cons_of_neg (by decide), List.append_nil]
  simp only [String.ofList_toList]

/-- What stands in front of an equals sign decides whether the text is a flag. -/
theorem token_append (hplain : Plain grammar) {name : String} (hdash : name.startsWith "-" = true)
    (hequals : '=' ∉ name.toList) (value : String) :
    grammar.token (name ++ "=" ++ value) = match grammar.flagNamed? name with
      | some flag => .ok (.flag flag name (.behindEquals value))
      | none => grammar.looseToken (name ++ "=" ++ value) := by
  have hmem : '=' ∈ (name ++ "=" ++ value).toList := by simp
  have hstarts : (name ++ "=" ++ value).startsWith "-" = true := by
    obtain ⟨rest, hrest⟩ := startsWith_dash_iff.mp hdash
    exact startsWith_dash_iff.mpr ⟨rest ++ "=".toList ++ value.toList, by simp [hrest]⟩
  have hne : name ++ "=" ++ value ≠ "-" := by
    intro he
    rw [he] at hmem
    exact absurd hmem (by decide)
  rw [token, hstarts, hplain.flagNamed?_eq_none hmem (Or.inl rfl)]
  cases hflag : grammar.flagNamed? name <;>
    simp only [Bool.not_true, Bool.false_eq_true, if_false, if_neg hne, hflag,
      splitEquals?_append hequals]

/-- The name of a flag with a value behind an equals sign. -/
theorem token_joined (hplain : Plain grammar) {name value : String} {flag : Flag σ}
    (hdash : name.startsWith "-" = true) (hflag : grammar.flagNamed? name = some flag) :
    grammar.token (name ++ "=" ++ value) = .ok (.flag flag name (.behindEquals value)) := by
  have hequals : '=' ∉ name.toList := fun hmem =>
    (hplain _ (mem_namedFlags_of_flagNamed? hflag) '=' hmem).1 rfl
  rw [token_append hplain hdash hequals, hflag]

theorem readings_eq_nil_of_digit (hplain : Plain grammar) {text : String} {d : Char}
    {digits : List Char} (htext : text.toList = '-' :: d :: digits) (hd : d.isDigit = true) :
    grammar.readings text = [] := by
  have hlong : text.startsWith "--" = false := by
    have hdashes : "--".toList = ['-', '-'] := rfl
    rw [String.startsWith_string_eq_false_iff, htext, hdashes]
    rintro ⟨rest, hrest⟩
    obtain ⟨rfl, -⟩ := List.cons.inj (List.cons.inj hrest).2
    exact absurd hd (by decide)
  rw [readings, hlong]
  simp only [Bool.false_eq_true, if_false, shortReadings, List.filterMap_eq_nil_iff]
  intro entry hentry
  have hname : d ∉ entry.1.toList := fun hmem => by
    rw [(hplain entry hentry d hmem).2] at hd
    cases hd
  rw [if_neg, if_neg]
  · intro hstarts
    rw [htext, List.isPrefixOf_iff_prefix] at hstarts
    exact hname (hstarts.subset (by simp))
  · rintro he
    refine hname ?_
    rw [he, String.toList_ofList, htext]
    simp

theorem splitEquals?_eq_none {text : String} (h : '=' ∉ text.toList) : splitEquals? text = none := by
  have hall : ∀ c ∈ text.toList, decide (c ≠ '=') = true := fun c hc =>
    decide_eq_true fun he => h (he ▸ hc)
  rw [splitEquals?, List.dropWhile_eq_nil_iff.mpr hall]

theorem isNegativeNumber_of_toList {text : String} {n : Nat}
    (h : text.toList = '-' :: Nat.toDigits 10 n) : isNegativeNumber text = true := by
  have hdigits : ∀ c ∈ Nat.toDigits 10 n, Text.isDecimalDigit c = true := fun c hc =>
    Text.isDecimalDigit_of_isDigit (Number.isDigit_of_mem_toDigits hc)
  have htake : (Nat.toDigits 10 n).takeWhile Text.isDecimalDigit = Nat.toDigits 10 n :=
    List.takeWhile_eq_self_iff.mpr hdigits
  rw [isNegativeNumber, h]
  simp only [List.dropWhile_eq_nil_iff.mpr hdigits, htake]
  simp [Nat.toDigits_ne_nil]

/-- A written integer is a word, also where it is negative. -/
theorem token_toString (hplain : Plain grammar) (n : Int) :
    grammar.token (toString n) = .ok .word := by
  obtain ⟨d, digits, hdigits, -⟩ := Json.exists_digit_cons n.natAbs
  have htext := Json.toList_toString n
  have hd : d.isDigit = true := Number.isDigit_of_mem_toDigits (hdigits ▸ List.mem_cons_self)
  by_cases hneg : n < 0
  · rw [if_pos hneg] at htext
    have hnumber : isNegativeNumber (toString n) = true := isNegativeNumber_of_toList htext
    have hequals : splitEquals? (toString n) = none := by
      refine splitEquals?_eq_none ?_
      rw [htext, List.mem_append, List.mem_singleton, not_or]
      exact ⟨by decide, fun hmem => absurd (Number.isDigit_of_mem_toDigits hmem) (by decide)⟩
    rw [hdigits] at htext
    have hmem : d ∈ (toString n).toList := htext ▸ by simp
    have hdash : toString n ≠ "-" := by
      intro he
      rw [he] at htext
      cases htext
    rw [token, startsWith_dash_iff.mpr ⟨_, htext⟩, hplain.flagNamed?_eq_none hmem (Or.inr hd)]
    simp only [Bool.not_true, Bool.false_eq_true, if_false, if_neg hdash, hequals, looseToken,
      readings_eq_nil_of_digit hplain htext hd, hnumber, Bool.true_or, if_true]
  · rw [if_neg hneg, hdigits] at htext
    refine token_word (Bool.eq_false_iff.mpr fun hstarts => ?_)
    obtain ⟨rest, hrest⟩ := startsWith_dash_iff.mp hstarts
    rw [htext] at hrest
    obtain ⟨rfl, -⟩ := List.cons.inj hrest
    exact absurd hd (by decide)

theorem toString_ne_separator (n : Int) : toString n ≠ "--" := by
  intro he
  obtain ⟨d, digits, hdigits, -⟩ := Json.exists_digit_cons n.natAbs
  have hd : d.isDigit = true := Number.isDigit_of_mem_toDigits (hdigits ▸ List.mem_cons_self)
  have htext := Json.toList_toString n
  have hdashes : "--".toList = ['-', '-'] := rfl
  rw [he, hdashes, hdigits] at htext
  have hdash : d = '-' := by
    split_ifs at htext
    · exact (List.cons.inj (List.cons.inj htext).2).1.symm
    · exact (List.cons.inj htext).1.symm
  rw [hdash] at hd
  exact absurd hd (by decide)

theorem ne_separator_of_equals {text : String} (h : '=' ∈ text.toList) : text ≠ "--" := by
  rintro rfl
  exact absurd h (by decide)

theorem tokens_cons {text : String} {token : Token σ} {rest : List String} {items : List (Item σ)}
    (hsep : text ≠ "--") (htoken : grammar.token text = .ok token)
    (hrest : grammar.tokens rest = .ok items) :
    grammar.tokens (text :: rest) = .ok ((text, token) :: items) := by
  rw [tokens, if_neg hsep, htoken, hrest]
  rfl

/-- Where every text has a token, so has the whole line. -/
theorem exists_tokens {texts : List String}
    (h : ∀ text ∈ texts, text ≠ "--" ∧ ∃ token, grammar.token text = .ok token) :
    ∃ items, grammar.tokens texts = .ok items ∧ items.map (·.1) = texts := by
  induction texts with
  | nil => exact ⟨[], rfl, rfl⟩
  | cons text texts ih =>
    obtain ⟨hsep, token, htoken⟩ := h text List.mem_cons_self
    obtain ⟨items, hitems, hmap⟩ := ih fun other ho => h other (List.mem_cons_of_mem text ho)
    exact ⟨(text, token) :: items, tokens_cons hsep htoken hitems, by rw [List.map_cons, hmap]⟩

/-- A text with an equals sign has a token, also where it cannot mean any flag. -/
theorem exists_token_joined (hplain : Plain grammar) {name value : String}
    (hdashes : name.startsWith "--" = true) (hequals : '=' ∉ name.toList)
    (hnone : ∀ entry ∈ grammar.namedFlags, name.toList.isPrefixOf entry.1.toList = false) :
    ∃ token, grammar.token (name ++ "=" ++ value) = .ok token := by
  have hunknown : grammar.flagNamed? name = none := by
    rw [Option.eq_none_iff_forall_ne_some]
    intro flag hflag
    have hself := hnone _ (mem_namedFlags_of_flagNamed? hflag)
    rw [Bool.eq_false_iff] at hself
    exact hself (List.isPrefixOf_iff_prefix.mpr (List.prefix_refl _))
  have hdash : name.startsWith "-" = true := by
    rw [String.startsWith_string_iff] at hdashes ⊢
    exact List.IsPrefix.trans ⟨['-'], rfl⟩ hdashes
  have hlong : (name ++ "=" ++ value).startsWith "--" = true := by
    rw [String.startsWith_string_iff] at hdashes ⊢
    rw [String.append_assoc, String.toList_append]
    exact hdashes.trans (List.prefix_append _ _)
  have hreadings : grammar.readings (name ++ "=" ++ value) = [] := by
    rw [readings, if_pos hlong, longReadings, splitEquals?_append hequals]
    simp only [List.filterMap_eq_nil_iff]
    intro entry hentry
    rw [if_neg (by simp [hnone entry hentry])]
  rw [token_append hplain hdash hequals, hunknown]
  simp only [looseToken, hreadings]
  split <;> exact ⟨_, rfl⟩

/-! ## Flags with values -/

/-- A flag with its value: as two texts, or in one with an equals sign. -/
def spelled (name value : String) (isJoined : Bool) : List String :=
  if isJoined then [name ++ "=" ++ value] else [name, value]

/-- The texts of a flag with its value, with their tokens. -/
def spelledItems (flag : Flag σ) (name value : String) (isJoined : Bool) : List (Item σ) :=
  if isJoined then [(name ++ "=" ++ value, .flag flag name (.behindEquals value))]
  else [(name, .flag flag name .absent), (value, .word)]

section Flags

variable {name value : String} {flag : Flag σ} {rest : List String} {items : List (Item σ)}
  {progress : Progress σ} {inner : List String}

theorem tokens_spelled (hplain : Plain grammar) (hdash : name.startsWith "-" = true)
    (hname : name ≠ "--") (hflag : grammar.flagNamed? name = some flag) (hvalue : value ≠ "--")
    (hword : grammar.token value = .ok .word) (hrest : grammar.tokens rest = .ok items)
    (isJoined : Bool) :
    grammar.tokens (spelled name value isJoined ++ rest)
      = .ok (spelledItems flag name value isJoined ++ items) := by
  cases isJoined with
  | true =>
    exact tokens_cons (ne_separator_of_equals (by simp)) (token_joined hplain hdash hflag) hrest
  | false =>
    exact tokens_cons hname (token_name hdash hflag) (tokens_cons hvalue hword hrest)

variable {text : String} {attached : Attachment} {use : Use σ} {behind : List (Item σ)}

theorem not_separator_of_mem_spelledItems {isJoined : Bool} {item : Item σ}
    (h : item ∈ spelledItems flag name value isJoined) : item.2 ≠ .separator := by
  cases isJoined with
  | true =>
    rw [List.mem_singleton.mp h]
    nofun
  | false =>
    rcases List.mem_cons.mp h with rfl | hvalue
    · nofun
    · rw [List.mem_singleton.mp hvalue]
      nofun

theorem uses_next (h : flag.effect.takesValue = true) :
    grammar.uses flag name .absent ((value, .word) :: items)
      = .ok ([(flag, some value)], [], items) := by
  have hnext : grammar.useWithNext flag ((value, .word) :: items)
      = .ok ((flag, some value), items) := by
    rw [useWithNext, if_pos h]
  unfold uses
  simp only [pure_bind, hnext]
  rfl

theorem uses_behindEquals (h : flag.effect.takesValue = true) :
    grammar.uses flag name (.behindEquals value) items
      = .ok ([(flag, some value)], [], items) := by
  have hcluster : grammar.cluster flag name true value.toList
      = .ok { uses := [(flag, some value)] } := by
    unfold cluster
    rw [if_pos h, String.ofList_toList]
  unfold uses
  simp only [hcluster]
  rfl

theorem uses_switch (h : flag.effect.takesValue = false) :
    grammar.uses flag name .absent items = .ok ([(flag, none)], [], items) := by
  have hnext : grammar.useWithNext flag items = .ok ((flag, none), items) := by
    unfold useWithNext
    simp [h]
  unfold uses
  simp only [pure_bind, hnext]
  rfl

/-- Reading goes on behind the use of a flag, unless the use is refused. -/
theorem readItems_flag
    (huses : grammar.uses flag name attached items = .ok ([use], [], behind))
    (hlength : behind.length ≤ items.length) :
    grammar.readItems progress inner ((text, .flag flag name attached) :: items)
      = match grammar.apply progress.settings use with
        | .ok settings => grammar.readItems { progress with settings } inner behind
        | .error stop => .error stop := by
  rw [readItems]
  simp only [huses, List.foldlM_cons, List.foldlM_nil]
  cases grammar.apply progress.settings use with
  | error stop => rfl
  | ok settings =>
    have hshorter : behind.length < items.length + 1 := by omega
    show (if behind.length < items.length + 1 then _ else _) = _
    rw [if_pos hshorter, List.append_nil]

/-- A flag with its value is used with it, however it is written. -/
theorem readItems_spelled (h : flag.effect.takesValue = true) (isJoined : Bool) :
    grammar.readItems progress inner (spelledItems flag name value isJoined ++ items)
      = match grammar.apply progress.settings (flag, some value) with
        | .ok settings => grammar.readItems { progress with settings } inner items
        | .error stop => .error stop := by
  cases isJoined with
  | true => exact readItems_flag (uses_behindEquals h) (Nat.le_refl _)
  | false => exact readItems_flag (uses_next h) (Nat.le_succ _)

end Flags

/-- A word takes the place of the positional argument, if that is free. -/
theorem readItems_word {label text : String} {set : String → σ → σ} {progress : Progress σ}
    {inner : List String} {items : List (Item σ)} (hword : grammar.positional = .word label set)
    (hfree : progress.placed = false) (hsep : ∀ item ∈ items, item.2 ≠ .separator) :
    grammar.readItems progress inner ((text, .word) :: items)
      = grammar.readItems
        { progress with settings := set text progress.settings, placed := true } inner items := by
  have htake : grammar.takePositional ((text, .word) :: items) = some ([text], items) := by
    unfold takePositional
    simp only [hword]
    split
    · next rest => exact absurd rfl (hsep _ List.mem_cons_self)
    · rfl
  rw [readItems, hfree]
  simp only [Bool.false_eq_true, if_false, htake, place, hword]
  rw [if_pos (Nat.lt_succ_self _), List.append_nil]

end Grammar

end VmScan.CommandLine
