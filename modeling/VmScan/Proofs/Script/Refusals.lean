import VmScan.Proofs.Script.LookBack
import VmScan.Script.Truncate

/-!
# Scripts that are not scanned

A script is scanned token by token up to the place at which a gap or a token cannot be read. A fault
there leaves the script as it is (`truncate_long_strings`). Only a slash for which the rule on
patterns asks for a token that is not there is more than a fault.

* `Lexeme.value` — what the history keeps of a token.
* `Passes` — the scanner gets from one place to another, with the tokens on the way.
* `FailsAt` — the gap or the token at a place cannot be read.
* `LooksOutside` — a script with a slash behind tokens for which the rule has no answer.

All of this is about `truncate_long_strings` with whatever test tells which texts are patterns.

Results:
* `scanFrom_error_iff`: a script fails where the scanner gets to a place that fails.
* `Passes.history`: on the way, the history takes up the tokens one by one.
* `scan_noSuchToken_iff`: which scripts fail for a token that is not there.
* `truncate_cases`: a script is shortened, or left as it is with a warning, unless it looks outside.
-/

namespace VmScan.Script

/-! ## From place to place -/

/-- What the history keeps of a token. -/
def Lexeme.value (token : Lexeme) : Option String :=
  if token.kind = .keyword || token.kind = .punctuator then some (String.ofList token.text)
  else none

/-- The scanner gets from one place to another; between them stand gaps and these tokens. -/
inductive Passes (takes : PatternTest) :
    Place → Bool → List Char → List Lexeme → Place → Bool → List Char → Prop where
  | nil (place : Place) (start : Bool) (input : List Char) :
      Passes takes place start input [] place start input
  | cons {place final : Place} {start flag : Bool} {input cs rest : List Char} {gap : Nat}
      {first : Char} {token : Token} {tokens : List Lexeme}
      (hgap : place.gap start input = .ok gap) (hinput : input.drop gap = first :: cs)
      (htoken : (place.afterGap (input.take gap)).token takes first cs = .ok token)
      (hrest : Passes takes
        ((place.afterGap (input.take gap)).afterToken token (first :: cs.take token.rest)) false
        (cs.drop token.rest) tokens final flag rest) :
      Passes takes place start input (⟨token.kind, first :: cs.take token.rest⟩ :: tokens) final
        flag rest

/-- The gap at the place, or the token behind it, cannot be read. -/
inductive FailsAt (takes : PatternTest) (place : Place) (start : Bool) (input : List Char)
    (failure : Failure) : Prop where
  | gap (h : place.gap start input = .error failure)
  | token {gap : Nat} {first : Char} {cs : List Char} (hgap : place.gap start input = .ok gap)
      (hinput : input.drop gap = first :: cs)
      (h : (place.afterGap (input.take gap)).token takes first cs = .error failure)

section Steps

variable {takes : PatternTest} {place : Place} {start : Bool} {input cs : List Char} {gap : Nat}
  {first : Char} {failure : Failure}

theorem FailsAt.scanFrom_eq (h : FailsAt takes place start input failure) :
    scanFrom takes place start input = .error failure := by
  rw [scanFrom]
  cases h with
  | gap h => simp only [h]
  | token hgap hinput h =>
    simp only [hgap]
    split
    · next hnil =>
      rw [hinput] at hnil
      cases hnil
    · next hcons =>
      rw [hinput] at hcons
      cases hcons
      simp only [h]

/-- What fails behind a token fails from its gap on. -/
theorem scanFrom_eq_of_rest {token : Token} (hgap : place.gap start input = .ok gap)
    (hinput : input.drop gap = first :: cs)
    (htoken : (place.afterGap (input.take gap)).token takes first cs = .ok token)
    (h : scanFrom takes
      ((place.afterGap (input.take gap)).afterToken token (first :: cs.take token.rest)) false
      (cs.drop token.rest) = .error failure) :
    scanFrom takes place start input = .error failure := by
  rw [scanFrom]
  simp only [hgap]
  split
  · next hnil =>
    rw [hinput] at hnil
    cases hnil
  · next hcons =>
    rw [hinput] at hcons
    cases hcons
    simp only [htoken, h]

end Steps

/-- **A script fails exactly where the scanner gets to a place that fails.** -/
theorem scanFrom_error_iff {takes : PatternTest} {place : Place} {start : Bool}
    {input : List Char} {failure : Failure} :
    scanFrom takes place start input = .error failure ↔ ∃ tokens final flag rest,
      Passes takes place start input tokens final flag rest ∧
        FailsAt takes final flag rest failure := by
  constructor
  · intro h
    fun_induction scanFrom takes place start input with
    | case1 place start input other hgap =>
      cases h
      exact ⟨[], place, start, input, .nil .., .gap hgap⟩
    | case2 => cases h
    | case3 place start input gap hgap space first cs hinput _ behind other htoken =>
      cases h
      exact ⟨[], place, start, input, .nil .., .token hgap hinput htoken⟩
    | case4 place start input gap hgap space first cs hinput _ behind token htoken text other
        hrest =>
      rename_i ih
      cases h
      obtain ⟨tokens, final, flag, rest, hpasses, hfails⟩ := ih hrest
      exact ⟨_, final, flag, rest, .cons hgap hinput htoken hpasses, hfails⟩
    | case5 => cases h
  · rintro ⟨tokens, final, flag, rest, hpasses, hfails⟩
    induction hpasses with
    | nil => exact hfails.scanFrom_eq
    | cons hgap hinput htoken _ ih => exact scanFrom_eq_of_rest hgap hinput htoken (ih hfails)

/-! ## Tokens that are not there -/

section Looking

variable {takes : PatternTest} {place final : Place} {start flag : Bool}
  {input rest cs : List Char} {tokens : List Lexeme} {first : Char}

/-- On the way, the history takes up the tokens one by one. -/
theorem Passes.history (h : Passes takes place start input tokens final flag rest) :
    final.history = (tokens.map Lexeme.value).foldl History.push place.history := by
  induction h with
  | nil => rfl
  | cons _ _ _ _ ih => exact ih

/-- The script has a slash behind tokens for which the rule on patterns has no answer. -/
def LooksOutside (takes : PatternTest) (script : List Char) : Prop :=
  ∃ tokens place start input gap cs, Passes takes {} true script tokens place start input ∧
    place.gap start input = .ok gap ∧ input.drop gap = '/' :: cs ∧
    Unanswered (tokens.map Lexeme.value)

theorem mapError_eq_error {e e' a : Type} {f : e → e'} {result : Except e a} {failure : e'}
    (h : result.mapError f = .error failure) : ∃ fault, failure = f fault := by
  cases result with
  | error fault =>
    cases h
    exact ⟨fault, rfl⟩
  | ok _ => cases h

theorem Place.gap_ne_noSuchToken : place.gap start input ≠ .error .noSuchToken := by
  intro h
  obtain ⟨fault, hfault⟩ := mapError_eq_error h
  cases hfault

/-- A token is missing exactly at a slash for which the rule has no answer. -/
theorem Place.token_noSuchToken_iff :
    place.token takes first cs = .error .noSuchToken ↔
      first = '/' ∧ place.history.opensPattern? = none := by
  unfold Place.token
  simp only [bind, Except.bind, pure, Except.pure]
  by_cases hslash : first = '/'
  · rw [if_pos hslash, and_iff_right hslash]
    cases place.history.opensPattern? with
    | none => exact iff_of_true rfl rfl
    | some opens =>
      refine iff_of_false (fun h => ?_) nofun
      simp only at h
      split at h
      · cases h
      · obtain ⟨fault, hfault⟩ := mapError_eq_error h
        cases hfault
  · rw [if_neg hslash]
    refine iff_of_false (fun h => ?_) fun h => hslash h.1
    obtain ⟨fault, hfault⟩ := mapError_eq_error h
    cases hfault

/-- **A script fails for a token that is not there exactly if it looks outside.** -/
theorem scan_noSuchToken_iff (takes : PatternTest) (script : List Char) :
    scan takes script = .error .noSuchToken ↔ LooksOutside takes script := by
  rw [scan, scanFrom_error_iff]
  have hanswer : ∀ {tokens place start input},
      Passes takes {} true script tokens place start input →
      (place.history.opensPattern? = none ↔ Unanswered (tokens.map Lexeme.value)) := by
    intro tokens place start input hpasses
    have htracked : place.history.Tracked := by
      rw [hpasses.history]
      exact History.tracked_foldl_push _ History.tracked_empty
    rw [htracked.opensPattern?_eq_none_iff, hpasses.history, History.toList_values_foldl_push]
    rfl
  constructor
  · rintro ⟨tokens, place, start, input, hpasses, hgap | ⟨hgap, hinput, htoken⟩⟩
    · exact absurd hgap Place.gap_ne_noSuchToken
    · obtain ⟨rfl, hnone⟩ := Place.token_noSuchToken_iff.mp htoken
      exact ⟨tokens, place, start, input, _, _, hpasses, hgap, hinput, (hanswer hpasses).mp hnone⟩
  · rintro ⟨tokens, place, start, input, gap, cs, hpasses, hgap, hinput, hrow⟩
    exact ⟨tokens, place, start, input, hpasses, .token hgap hinput
      (Place.token_noSuchToken_iff.mpr ⟨rfl, (hanswer hpasses).mpr hrow⟩)⟩

theorem literalSpans_noSuchToken_iff (takes : PatternTest) (script : List Char) :
    literalSpansWith takes script = .error .noSuchToken ↔ LooksOutside takes script := by
  rw [← scan_noSuchToken_iff, literalSpansWith]
  cases scan takes script with
  | ok lexemes => exact iff_of_false nofun nofun
  | error failure => exact ⟨fun h => congrArg _ (Except.error.inj h),
      fun h => congrArg _ (Except.error.inj h)⟩

end Looking

/-! ## Shortening -/

/-- What becomes of a script, by what the tokenizer says about it. -/
theorem truncateWith_cases (tokenize : Tokenizer) (code : String) {limit : Int} (h : 1 ≤ limit) :
    (tokenize code.toList = .error .noSuchToken ∧
        truncateWith tokenize code limit = .error .noSuchToken) ∨
      tokenize code.toList ≠ .error .noSuchToken ∧ ∃ truncated,
        truncateWith tokenize code limit = .ok truncated ∧
        ∀ failure, tokenize code.toList = .error failure →
          truncated = { code, warning := some (skippedWarning failure) } := by
  have hlimit : ¬ limit ≤ 0 := by omega
  simp only [truncateWith, if_neg hlimit]
  cases tokenize code.toList with
  | ok lexemes => exact Or.inr ⟨nofun, _, rfl, nofun⟩
  | error failure =>
    cases failure with
    | noSuchToken => exact Or.inl ⟨rfl, rfl⟩
    | fault cause line =>
      refine Or.inr ⟨nofun, _, rfl, fun failure hfailure => ?_⟩
      cases hfailure
      rfl

/-- **A script that is not scanned is left as it is, unless it looks outside.** For every script,
every limit of at least one character and every tokenizer, the script is shortened, or left as it is
with a warning that tells the fault; only where the tokenizer asks for a token that is not there,
nothing is returned, and for that reason. Whichever texts are patterns, scanning asks for one
exactly where a slash stands behind one of the rows of tokens for which the rule on patterns has
no answer. -/
theorem truncate_cases (code : String) {limit : Int} (h : 1 ≤ limit) :
    (∀ tokenize : Tokenizer,
      (tokenize code.toList = .error .noSuchToken ∧
          truncateWith tokenize code limit = .error .noSuchToken) ∨
        tokenize code.toList ≠ .error .noSuchToken ∧ ∃ truncated,
          truncateWith tokenize code limit = .ok truncated ∧
          ∀ failure, tokenize code.toList = .error failure →
            truncated = { code, warning := some (skippedWarning failure) }) ∧
      ∀ takes : PatternTest,
        (LooksOutside takes code.toList ∧
            truncateWith (literalSpansWith takes) code limit = .error .noSuchToken) ∨
          ¬ LooksOutside takes code.toList ∧ ∃ truncated,
            truncateWith (literalSpansWith takes) code limit = .ok truncated ∧
            ∀ failure, literalSpansWith takes code.toList = .error failure →
              truncated = { code, warning := some (skippedWarning failure) } := by
  refine ⟨fun tokenize => truncateWith_cases tokenize code h, fun takes => ?_⟩
  rw [← literalSpans_noSuchToken_iff]
  exact truncateWith_cases (literalSpansWith takes) code h

/-- A string that is not closed leaves the script as it is. -/
theorem truncate_cases_unclosed : (1 : Int) ≤ 1 ∧ truncate "'a" 1 = .ok {
    code := "'a"
    warning := some
      "event=truncation_skipped reason=tokenize_failed error=Line 1: Unexpected token ILLEGAL" } := by
  have hlimit : (1 : Int) ≤ 1 := by decide
  refine ⟨hlimit, ?_⟩
  rcases (truncate_cases "'a" hlimit).2 Pattern.compiles with ⟨-, h⟩ | ⟨-, truncated, h, hfault⟩
  · exact absurd h (by decide +kernel)
  · rw [truncate, literalSpans, h, hfault (.fault .illegal 1) (by decide +kernel)]
    decide +kernel

/-- A slash behind a lone closing bracket leaves nothing of the script. -/
theorem truncate_bracketSlash : truncate ")/" 1 = .error .noSuchToken := by
  decide +kernel

end VmScan.Script
