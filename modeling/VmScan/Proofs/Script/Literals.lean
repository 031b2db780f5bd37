import Mathlib.Data.List.Basic
import VmScan.Proofs.Script.Escapes
import VmScan.Script.Truncate

/-!
# The literals that scanning finds

* `Delimited` — a literal that starts and ends with its delimiters.
* `Delimiters`, `endsOf` — the marks around a literal, and all marks that can close it.
* `Unclosed` — a text in which no closing mark is met, read past what is escaped.
* `Closed` — a literal that ends where the first mark that can close it is met.
* `Proper` — spans of literals that stand in a script one behind the other.

Results:
* `Delimiters.bodyOf_eq`: the body of a literal is what stands between its marks.
* `stringLength_closes`, `templateLength_closes`: a literal reaches up to and with the first closing
  mark that is not escaped.
* `scanFrom_flatten`: the texts of the lexemes, joined, are the script.
* `scanFrom_literal`: each string and each piece of a template is a token of its kind.
* `scanFrom_closed`: each string and each piece of a template closes with the first mark that can
  close it.
* `literalSpans_proper`, `literalSpans_closed`: the literals that scanning finds are proper, and
  closed.
-/

namespace VmScan.Script

/-- The marks with which a piece of a template ends: a backtick, or a dollar with a brace. -/
def pieceEnds : List (List Char) := [['\x60'], ['$', '\x7b']]

/-- A literal that starts and ends with its delimiters. -/
inductive Delimited : List Char → Prop where
  | quoted {quote : Char} (body : List Char) (hquote : quote = '\'' ∨ quote = '"') :
      Delimited (quote :: (body ++ [quote]))
  | piece {opening : Char} (body : List Char) {closing : List Char}
      (hopening : opening = '\x60' ∨ opening = '\x7d') (hclosing : closing ∈ pieceEnds) :
      Delimited (opening :: (body ++ closing))

/-- A literal that opens with the mark can close with the other one: a string with the quote that
it opens with, and a piece of a template with any mark that ends one. -/
inductive Delimiters : Char → List Char → Prop where
  | quotes {quote : Char} (hquote : quote = '\'' ∨ quote = '"') : Delimiters quote [quote]
  | marks {opening : Char} {closing : List Char} (hopening : opening = '\x60' ∨ opening = '\x7d')
      (hclosing : closing ∈ pieceEnds) : Delimiters opening closing

/-- The marks that can close a literal which opens with the given one. -/
def endsOf (opening : Char) : List (List Char) :=
  if opening = '\'' ∨ opening = '"' then [[opening]] else pieceEnds

/-- Read from the left, with a backslash passing over the character behind it, the text comes to its
end without meeting one of the marks. -/
inductive Unclosed (marks : List (List Char)) : List Char → Prop where
  | nil : Unclosed marks []
  | escaped (c : Char) {rest : List Char} (hrest : Unclosed marks rest) :
      Unclosed marks ('\\' :: c :: rest)
  | plain {c : Char} {rest : List Char} (hc : c ≠ '\\')
      (hmarks : ∀ mark ∈ marks, ¬ mark <+: c :: rest) (hrest : Unclosed marks rest) :
      Unclosed marks (c :: rest)

/-- A literal that closes with the first mark that can close it and is not escaped. -/
inductive Closed : List Char → Prop where
  | mk {opening : Char} {body closing : List Char} (hdelimiters : Delimiters opening closing)
      (hbody : Unclosed (endsOf opening) body) : Closed (opening :: (body ++ closing))

/-- Spans of literals in ascending order, apart from each other, within the script and not in
front of the given place. -/
inductive Proper (script : List Char) : Nat → List Span → Prop where
  | nil (place : Nat) : Proper script place []
  | cons {place : Nat} {span : Span} {spans : List Span} (hplace : place ≤ span.start)
      (hspan : span.start ≤ span.stop) (hstop : span.stop ≤ script.length)
      (hdelimited : Delimited (span.text script)) (hspans : Proper script span.stop spans) :
      Proper script place (span :: spans)

/-! ## The parts of a literal -/

theorem bodyOf_cons_append {first : Char} {body closing : List Char}
    (h : closingLength (first :: (body ++ closing)) = closing.length) :
    bodyOf (first :: (body ++ closing)) = body := by
  rw [bodyOf, h, List.length_cons, List.length_append, List.drop_one, List.tail_cons,
    Nat.add_right_comm, Nat.add_sub_cancel, Nat.add_sub_cancel, List.take_left]

theorem closingLength_quoted {quote : Char} (body : List Char)
    (hquote : quote = '\'' ∨ quote = '"') : closingLength (quote :: (body ++ [quote])) = 1 := by
  rcases hquote with rfl | rfl <;> rfl

theorem closingLength_piece {opening : Char} (body : List Char) {closing : List Char}
    (hopening : opening = '\x60' ∨ opening = '\x7d') (hclosing : closing ∈ pieceEnds) :
    closingLength (opening :: (body ++ closing)) = closing.length := by
  have hquoted : (decide ((opening :: (body ++ closing)).head? = some '\'')
      || decide ((opening :: (body ++ closing)).head? = some '"')) = false := by
    rcases hopening with rfl | rfl <;> rfl
  simp only [closingLength, hquoted, Bool.not_false, Bool.true_and]
  rcases List.mem_pair.mp hclosing with rfl | rfl
  · refine if_neg fun hsuffix => ?_
    obtain ⟨front, hfront⟩ := List.isSuffixOf_iff_suffix.mp hsuffix
    have hlast := congrArg List.getLast? hfront
    rw [List.getLast?_append, ← List.cons_append, List.getLast?_append] at hlast
    simp at hlast
  · refine if_pos (List.isSuffixOf_iff_suffix.mpr ⟨opening :: body, ?_⟩)
    rw [List.cons_append]

section Delimiters

variable {opening : Char} {closing : List Char} (h : Delimiters opening closing) (body : List Char)
include h

theorem Delimiters.closingLength_eq :
    closingLength (opening :: (body ++ closing)) = closing.length := by
  cases h with
  | quotes hquote => exact closingLength_quoted body hquote
  | marks hopening hclosing => exact closingLength_piece body hopening hclosing

/-- The body of a literal is what stands between its marks. -/
theorem Delimiters.bodyOf_eq : bodyOf (opening :: (body ++ closing)) = body :=
  bodyOf_cons_append (h.closingLength_eq body)

theorem Delimiters.closingOf_eq : closingOf (opening :: (body ++ closing)) = closing := by
  rw [closingOf, h.closingLength_eq body, ← List.cons_append, List.length_append,
    Nat.add_sub_cancel, List.drop_left]

end Delimiters

/-- No literal ends with a line feed. -/
theorem Delimited.getLast?_ne_lf {literal : List Char} (h : Delimited literal) :
    literal.getLast? ≠ some '\n' := by
  cases h with
  | quoted body hquote =>
    rw [← List.cons_append, List.getLast?_append]
    rcases hquote with rfl | rfl <;> simp
  | piece body hopening hclosing =>
    rw [← List.cons_append, List.getLast?_append]
    rcases List.mem_pair.mp hclosing with rfl | rfl <;> simp

theorem delimited_iff {literal : List Char} :
    Delimited literal ↔ ∃ opening body closing,
      Delimiters opening closing ∧ literal = opening :: (body ++ closing) := by
  constructor
  · rintro (⟨body, hquote⟩ | ⟨body, hopening, hclosing⟩)
    · exact ⟨_, body, _, .quotes hquote, rfl⟩
    · exact ⟨_, body, _, .marks hopening hclosing, rfl⟩
  · rintro ⟨opening, body, closing, hquote | ⟨hopening, hclosing⟩, rfl⟩
    · exact .quoted body hquote
    · exact .piece body hopening hclosing

theorem Closed.delimited {literal : List Char} (h : Closed literal) : Delimited literal := by
  obtain ⟨hdelimiters, -⟩ := h
  exact delimited_iff.mpr ⟨_, _, _, hdelimiters, rfl⟩

theorem endsOf_quote {quote : Char} (hquote : quote = '\'' ∨ quote = '"') :
    endsOf quote = [[quote]] :=
  if_pos hquote

theorem endsOf_mark {opening : Char} (hopening : opening = '\x60' ∨ opening = '\x7d') :
    endsOf opening = pieceEnds := by
  rcases hopening with rfl | rfl <;> rfl

theorem Delimited.ne_nil {literal : List Char} (h : Delimited literal) : literal ≠ [] := by
  cases h <;> exact List.cons_ne_nil _ _

/-! ## The lexemes of a script -/

theorem advance_eq_ok {count length : Nat} {result : Except Fault Nat}
    (h : advance count result = .ok length) :
    ∃ rest, result = .ok rest ∧ length = count + rest := by
  cases result with
  | error fault => exact absurd h (by simp [advance])
  | ok rest => exact ⟨rest, rfl, (Except.ok.inj h).symm⟩

/-- One of the closing marks stands at the end of the first `length` characters of the text, and
none is met before it. -/
def Closes (closings : List (List Char)) (cs : List Char) (length : Nat) : Prop :=
  ∃ body, Unclosed closings body ∧ ∃ closing ∈ closings, cs.take length = body ++ closing

section Closes

variable {closings : List (List Char)} {cs : List Char} {length : Nat}

theorem Closes.plain {c : Char} (hc : c ≠ '\\')
    (hclosings : ∀ closing ∈ closings, ¬ closing <+: c :: cs) (h : Closes closings cs length) :
    Closes closings (c :: cs) (1 + length) := by
  obtain ⟨body, hbody, closing, hclosing, htake⟩ := h
  have hprefix : c :: body <+: c :: cs := (List.prefix_cons_inj c).mpr
    ((htake ▸ List.prefix_append body closing).trans (List.take_prefix length cs))
  refine ⟨c :: body, .plain hc (fun mark hmark hmet => ?_) hbody, closing, hclosing, ?_⟩
  · exact hclosings mark hmark (hmet.trans hprefix)
  · rw [Nat.add_comm, List.take_succ_cons, htake, List.cons_append]

theorem Closes.escaped (c : Char) (h : Closes closings cs length) :
    Closes closings ('\\' :: c :: cs) (length + 2) := by
  obtain ⟨body, hbody, closing, hclosing, htake⟩ := h
  refine ⟨'\\' :: c :: body, .escaped c hbody, closing, hclosing, ?_⟩
  rw [List.take_succ_cons, List.take_succ_cons, htake, List.cons_append, List.cons_append]

/-- The marks cannot be met within an escape. -/
def OutsideEscapes (closings : List (List Char)) : Prop :=
  ∀ closing ∈ closings, ∃ first rest, closing = first :: rest ∧ isEscapePart first = false

theorem Closes.parts (hclosings : OutsideEscapes closings) {count : Nat}
    (hparts : ∀ c ∈ cs.take count, isEscapePart c = true)
    (h : Closes closings (cs.drop count) length) : Closes closings cs (count + length) := by
  induction count generalizing cs with
  | zero => rwa [Nat.zero_add]
  | succ count ih =>
    cases cs with
    | nil =>
      obtain ⟨body, hbody, closing, hclosing, htake⟩ := h
      rw [List.drop_nil, List.take_nil] at htake
      exact ⟨body, hbody, closing, hclosing, List.take_nil.trans htake⟩
    | cons c cs =>
      obtain ⟨hc, hparts⟩ := List.forall_mem_cons.mp hparts
      rw [show count + 1 + length = 1 + (count + length) by omega]
      refine (ih hparts h).plain (fun heq => ?_) (fun closing hclosing hmet => ?_)
      · rw [heq] at hc
        exact absurd hc (by decide)
      · obtain ⟨first, rest, rfl, hfirst⟩ := hclosings closing hclosing
        rw [(List.cons_prefix_cons.mp hmet).1, hc] at hfirst
        cases hfirst

end Closes

theorem outsideEscapes_quote {quote : Char} (hquote : quote = '\'' ∨ quote = '"') :
    OutsideEscapes [[quote]] := fun closing hclosing =>
  ⟨quote, [], List.mem_singleton.mp hclosing, by rcases hquote with rfl | rfl <;> decide⟩

theorem outsideEscapes_pieceEnds : OutsideEscapes pieceEnds := fun closing hclosing => by
  rcases List.mem_pair.mp hclosing with rfl | rfl
  · exact ⟨'\x60', [], rfl, by decide⟩
  · exact ⟨'$', ['\x7b'], rfl, by decide⟩

/-- A string reaches up to and with the first quote that is not escaped. -/
theorem stringLength_closes {quote : Char} (hquote : quote = '\'' ∨ quote = '"') {cs : List Char}
    {length : Nat} (h : stringLength quote cs = .ok length) : Closes [[quote]] cs length := by
  fun_induction stringLength quote cs generalizing length with
  | case1 => cases h
  | case2 cs =>
    obtain rfl := Except.ok.inj h
    exact ⟨[], .nil, [quote], List.mem_singleton_self _, rfl⟩
  | case3 => cases h
  | case4 => cases h
  | case5 c cs count hescape _ ih =>
    obtain ⟨rest, hrest, rfl⟩ := advance_eq_ok h
    rw [Nat.add_right_comm]
    exact ((ih hrest).parts (outsideEscapes_quote hquote) (stringEscape_parts hescape)).escaped c
  | case6 => cases h
  | case7 c cs hclose hescape hterminator ih =>
    obtain ⟨rest, hrest, rfl⟩ := advance_eq_ok h
    refine (ih hrest).plain hescape fun closing hclosing hmet => ?_
    rw [List.mem_singleton.mp hclosing] at hmet
    exact hclose (List.cons_prefix_cons.mp hmet).1.symm

/-- A piece of a template reaches up to and with the first of its marks that is not escaped. -/
theorem templateLength_closes {cs : List Char} {length : Nat}
    (h : templateLength cs = .ok length) : Closes pieceEnds cs length := by
  fun_induction templateLength cs generalizing length with
  | case1 => cases h
  | case2 cs =>
    obtain rfl := Except.ok.inj h
    exact ⟨[], .nil, ['\x60'], List.mem_cons_self, rfl⟩
  | case3 cs =>
    obtain rfl := Except.ok.inj h
    exact ⟨[], .nil, ['$', '\x7b'], List.mem_cons_of_mem _ List.mem_cons_self, rfl⟩
  | case4 => cases h
  | case5 => cases h
  | case6 c cs count hescape ih =>
    obtain ⟨rest, hrest, rfl⟩ := advance_eq_ok h
    rw [Nat.add_right_comm]
    exact ((ih hrest).parts outsideEscapes_pieceEnds (templateEscape_parts hescape)).escaped c
  | case7 c cs hbacktick hdollar hescape ih =>
    obtain ⟨rest, hrest, rfl⟩ := advance_eq_ok h
    refine (ih hrest).plain hescape fun closing hclosing hmet => ?_
    rcases List.mem_pair.mp hclosing with rfl | rfl
    · exact hbacktick (List.cons_prefix_cons.mp hmet).1.symm
    · obtain ⟨hfirst, tail, hrest⟩ := List.cons_prefix_cons.mp hmet
      exact hdollar tail hfirst.symm hrest.symm

/-- Whether a token of this kind is a string or a piece of a template. -/
def LexemeKind.isLiteral (kind : LexemeKind) : Bool :=
  kind = .string || kind = .template

theorem nameKind_isLiteral {name : Name} {kind : LexemeKind} (h : nameKind name = .ok kind) :
    kind.isLiteral = false := by
  simp only [nameKind] at h
  split_ifs at h <;> cases h <;> rfl

theorem tokenOf_kind {kind : LexemeKind} {opened : List Opened} {rest : Option Nat}
    {token : Token} (h : tokenOf kind opened rest = .ok token) : token.kind = kind := by
  cases rest with
  | none => cases h
  | some rest => cases h; rfl

theorem scanToken_quote {opened : List Opened} {quote : Char}
    (hquote : quote = '\'' ∨ quote = '"') (cs : List Char) : scanToken opened quote cs =
      match advance 1 (stringLength quote cs) with
      | .error fault => .error fault
      | .ok length => .ok ⟨.string, length - 1, opened⟩ := by
  have hname : (isNameStart quote || quote = '\\') = false := by
    rcases hquote with rfl | rfl <;> decide +kernel
  exact (if_neg (by rw [hname]; exact Bool.false_ne_true)).trans (if_pos (by simpa using hquote))

theorem scanToken_piece {opened : List Opened} {first : Char}
    (hpiece : first = '\x60' ∨ first = '\x7d' ∧ opened.head? = some .substitution)
    (cs : List Char) : scanToken opened first cs = scanTemplate first opened cs := by
  have hmark := hpiece.imp_right And.left
  have hname : (isNameStart first || first = '\\') = false := by
    rcases hmark with rfl | rfl <;> decide +kernel
  have hquote : (first = '\'' || first = '"') = false := by
    rcases hmark with rfl | rfl <;> decide
  have hnumber : (Text.isAsciiDigit first || (first = '.' && startsDigit cs)) = false := by
    rcases hmark with rfl | rfl <;> rfl
  rw [scanToken, hname, if_neg Bool.false_ne_true, hquote, if_neg Bool.false_ne_true, hnumber,
    if_neg Bool.false_ne_true, if_pos (by simpa using hpiece)]

/-- A literal token is a string with its quote, or a piece of a template with its opening mark. -/
theorem scanToken_literal {opened : List Opened} {first : Char} {cs : List Char} {token : Token}
    (h : scanToken opened first cs = .ok token) (hkind : token.kind.isLiteral = true) :
    (first = '\'' ∨ first = '"') ∧ stringLength first cs = .ok token.rest ∧
        token.kind = .string ∧ token.opened = opened ∨
      (first = '\x60' ∨ first = '\x7d' ∧ opened.head? = some .substitution) ∧
        templateLength cs = .ok token.rest ∧ token.kind = .template := by
  unfold scanToken at h
  split_ifs at h with hname hquote hnumber hpiece
  · cases hn : name? first cs with
    | none => rw [hn] at h; cases h
    | some name =>
      simp only [hn] at h
      cases hk : nameKind name with
      | error cause => rw [hk] at h; cases h
      | ok kind =>
        rw [hk] at h
        cases h
        rw [nameKind_isLiteral hk] at hkind
        cases hkind
  · cases hlength : advance 1 (stringLength first cs) with
    | error fault => rw [hlength] at h; cases h
    | ok length =>
      rw [hlength] at h
      cases h
      obtain ⟨rest, hrest, rfl⟩ := advance_eq_ok hlength
      rw [Nat.add_sub_cancel_left]
      exact Or.inl ⟨by simpa using hquote, hrest, rfl, rfl⟩
  · rw [tokenOf_kind h] at hkind
    cases hkind
  · unfold scanTemplate at h
    cases hlength : advance 1 (templateLength cs) with
    | error fault => rw [hlength] at h; cases h
    | ok length =>
      rw [hlength] at h
      cases h
      obtain ⟨rest, hrest, rfl⟩ := advance_eq_ok hlength
      rw [Nat.add_sub_cancel_left]
      exact Or.inr ⟨by simpa using hpiece, hrest, rfl⟩
  · rw [tokenOf_kind h] at hkind
    cases hkind

/-- A literal token closes with the first mark that can close it. -/
theorem scanToken_closed {opened : List Opened} {first : Char} {cs : List Char} {token : Token}
    (h : scanToken opened first cs = .ok token) (hkind : token.kind.isLiteral = true) :
    Closed (first :: cs.take token.rest) := by
  rcases scanToken_literal h hkind with ⟨hquote, hlength, -⟩ | ⟨hpiece, hlength, -⟩
  · obtain ⟨body, hbody, closing, hclosing, htake⟩ := stringLength_closes hquote hlength
    rw [List.mem_singleton.mp hclosing] at htake
    rw [htake]
    exact .mk (.quotes hquote) (endsOf_quote hquote ▸ hbody)
  · have hopening := hpiece.imp_right And.left
    obtain ⟨body, hbody, closing, hclosing, htake⟩ := templateLength_closes hlength
    rw [htake]
    exact .mk (.marks hopening hclosing) (endsOf_mark hopening ▸ hbody)

theorem mapError_eq_ok {e e' a : Type} {f : e → e'} {result : Except e a} {value : a}
    (h : result.mapError f = .ok value) : result = .ok value := by
  cases result with
  | error error => cases h
  | ok other => exact congrArg _ (Except.ok.inj h)

/-- Where no slash stands, no pattern can open. -/
theorem Place.token_of_ne {first : Char} (hslash : first ≠ '/') (place : Place)
    (takes : PatternTest) (cs : List Char) : place.token takes first cs
      = (scanToken place.opened first cs).mapError (place.failure (first :: cs)) := by
  simp only [Place.token, bind, Except.bind, pure, Except.pure, if_neg hslash]
  rfl

theorem Place.token_eq_ok {takes : PatternTest} {place : Place} {first : Char} {cs : List Char}
    {token : Token} (h : place.token takes first cs = .ok token) :
    token.kind = .pattern ∨ scanToken place.opened first cs = .ok token := by
  by_cases hslash : first = '/'
  · simp only [Place.token, bind, Except.bind, pure, Except.pure, if_pos hslash] at h
    cases hopens : place.history.opensPattern? with
    | none => rw [hopens] at h; cases h
    | some opens =>
      simp only [hopens] at h
      cases hrest : if opens then patternRest? takes cs else none with
      | some rest => rw [hrest] at h; cases h; exact Or.inl rfl
      | none => rw [hrest] at h; exact Or.inr (mapError_eq_ok h)
  · rw [Place.token_of_ne hslash] at h
    exact Or.inr (mapError_eq_ok h)

theorem flatten_gapLexeme (text : List Char) : ((gapLexeme text).map (·.text)).flatten = text := by
  unfold gapLexeme
  split_ifs with h
  · rw [List.isEmpty_iff.mp h]
    rfl
  · exact List.append_nil text

theorem not_isLiteral_of_mem_gapLexeme {text : List Char} {lexeme : Lexeme}
    (h : lexeme ∈ gapLexeme text) : lexeme.isLiteral = false := by
  unfold gapLexeme at h
  split_ifs at h
  · cases h
  · rw [List.mem_singleton.mp h]
    rfl

/-- The texts of the lexemes, joined, are the text that was scanned. -/
theorem scanFrom_flatten {takes : PatternTest} {place : Place} {start : Bool} {input : List Char}
    {lexemes : List Lexeme} (h : scanFrom takes place start input = .ok lexemes) :
    (lexemes.map (·.text)).flatten = input := by
  fun_induction scanFrom takes place start input generalizing lexemes with
  | case1 => cases h
  | case2 place start input gap hgap space =>
    rename_i hdrop
    obtain rfl := Except.ok.inj h
    have hinput := List.take_append_drop gap input
    rw [hdrop, List.append_nil] at hinput
    rw [flatten_gapLexeme]
    exact hinput
  | case3 => cases h
  | case4 => cases h
  | case5 place start input gap hgap space first cs hdrop _ behind token htoken text rest hrest =>
    rename_i ih
    obtain rfl := Except.ok.inj h
    rw [List.map_append, List.flatten_append, flatten_gapLexeme, List.map_cons, List.flatten_cons,
      ih hrest, List.cons_append, List.take_append_drop, ← hdrop, List.take_append_drop]

/-- Each string and each piece of a template that is scanned is a token of its kind. -/
theorem scanFrom_literal {takes : PatternTest} {place : Place} {start : Bool} {input : List Char}
    {lexemes : List Lexeme} (h : scanFrom takes place start input = .ok lexemes) :
    ∀ lexeme ∈ lexemes, lexeme.isLiteral = true → ∃ opened first cs token,
      scanToken opened first cs = .ok token ∧ lexeme = ⟨token.kind, first :: cs.take token.rest⟩ := by
  fun_induction scanFrom takes place start input generalizing lexemes with
  | case1 => cases h
  | case2 =>
    obtain rfl := Except.ok.inj h
    intro lexeme hmem hliteral
    rw [not_isLiteral_of_mem_gapLexeme hmem] at hliteral
    cases hliteral
  | case3 => cases h
  | case4 => cases h
  | case5 place start input gap hgap space first cs hdrop _ behind token htoken text rest hrest =>
    rename_i ih
    obtain rfl := Except.ok.inj h
    intro lexeme hmem hliteral
    rcases List.mem_append.mp hmem with hmem | hmem
    · rw [not_isLiteral_of_mem_gapLexeme hmem] at hliteral
      cases hliteral
    · rcases List.mem_cons.mp hmem with rfl | hmem
      · rcases Place.token_eq_ok htoken with hpattern | hscan
        · rw [Lexeme.isLiteral, hpattern] at hliteral
          cases hliteral
        · exact ⟨_, first, cs, token, hscan, rfl⟩
      · exact ih hrest lexeme hmem hliteral

/-- Each string and each piece of a template that is scanned closes with the first mark that can
close it. -/
theorem scanFrom_closed {takes : PatternTest} {place : Place} {start : Bool} {input : List Char}
    {lexemes : List Lexeme} (h : scanFrom takes place start input = .ok lexemes) :
    ∀ lexeme ∈ lexemes, lexeme.isLiteral = true → Closed lexeme.text := by
  intro lexeme hmem hliteral
  obtain ⟨opened, first, cs, token, hscan, rfl⟩ := scanFrom_literal h lexeme hmem hliteral
  exact scanToken_closed hscan hliteral

/-! ## Where the literals stand -/

theorem Proper.mono {script : List Char} {place earlier : Nat} {spans : List Span}
    (h : Proper script place spans) (hle : earlier ≤ place) : Proper script earlier spans := by
  cases h with
  | nil => exact .nil earlier
  | cons hplace hspan hstop hdelimited hspans =>
    exact .cons (Nat.le_trans hle hplace) hspan hstop hdelimited hspans

/-- A lexeme of a script that is scanned from a place on stands there. -/
theorem text_span {script : List Char} {start : Nat} {lexeme : Lexeme} {lexemes : List Lexeme}
    (htext : ((lexeme :: lexemes).map (·.text)).flatten = script.drop start) :
    Span.text script ⟨start, start + lexeme.text.length⟩ = lexeme.text ∧
      (lexemes.map (·.text)).flatten = script.drop (start + lexeme.text.length) := by
  rw [List.map_cons, List.flatten_cons] at htext
  constructor
  · rw [Span.text, List.drop_take, Nat.add_sub_cancel_left, ← htext, List.take_left]
  · rw [← List.drop_drop, ← htext, List.drop_left]

/-- Literals among lexemes that make up a script from a place on are proper. -/
theorem literalSpansFrom_proper {script : List Char} {start : Nat} {lexemes : List Lexeme}
    (hle : start ≤ script.length) (htext : (lexemes.map (·.text)).flatten = script.drop start)
    (h : ∀ lexeme ∈ lexemes, lexeme.isLiteral = true → Closed lexeme.text) :
    Proper script start (literalSpansFrom start lexemes) := by
  induction lexemes generalizing start with
  | nil => exact .nil start
  | cons lexeme lexemes ih =>
    obtain ⟨hspan, hdrop⟩ := text_span htext
    have hlength := congrArg List.length htext
    rw [List.map_cons, List.flatten_cons, List.length_append, List.length_drop] at hlength
    have hspans := ih (by omega) hdrop fun other ho => h other (List.mem_cons_of_mem lexeme ho)
    unfold literalSpansFrom
    split_ifs with hliteral
    · exact .cons (Nat.le_refl start) (Nat.le_add_right _ _) (by dsimp only; omega)
        (hspan.symm ▸ (h lexeme List.mem_cons_self hliteral).delimited) hspans
    · exact hspans.mono (Nat.le_add_right _ _)

/-- Literals among lexemes that make up a script from a place on have the texts of lexemes. -/
theorem literalSpansFrom_closed {script : List Char} {start : Nat} {lexemes : List Lexeme}
    (htext : (lexemes.map (·.text)).flatten = script.drop start)
    (h : ∀ lexeme ∈ lexemes, lexeme.isLiteral = true → Closed lexeme.text) :
    ∀ span ∈ literalSpansFrom start lexemes, Closed (span.text script) := by
  induction lexemes generalizing start with
  | nil => exact List.forall_mem_nil _
  | cons lexeme lexemes ih =>
    obtain ⟨hspan, hdrop⟩ := text_span htext
    have hspans := ih hdrop fun other ho => h other (List.mem_cons_of_mem lexeme ho)
    unfold literalSpansFrom
    split_ifs with hliteral
    · exact List.forall_mem_cons.mpr ⟨hspan.symm ▸ h lexeme List.mem_cons_self hliteral, hspans⟩
    · exact hspans

section Spans

variable {takes : PatternTest} {script : List Char} {spans : List Span}
  (h : literalSpansWith takes script = .ok spans)
include h

theorem exists_scan_of_literalSpans :
    ∃ lexemes, scan takes script = .ok lexemes ∧ spans = literalSpansFrom 0 lexemes := by
  unfold literalSpansWith at h
  cases hscan : scan takes script with
  | error failure => rw [hscan] at h; cases h
  | ok lexemes =>
    rw [hscan] at h
    exact ⟨lexemes, rfl, (Except.ok.inj h).symm⟩

/-- **The literals that scanning finds are proper.** -/
theorem literalSpans_proper : Proper script 0 spans := by
  obtain ⟨lexemes, hscan, rfl⟩ := exists_scan_of_literalSpans h
  exact literalSpansFrom_proper (Nat.zero_le _) (scanFrom_flatten hscan) (scanFrom_closed hscan)

/-- **The literals that scanning finds are closed.** -/
theorem literalSpans_closed : ∀ span ∈ spans, Closed (span.text script) := by
  obtain ⟨lexemes, hscan, rfl⟩ := exists_scan_of_literalSpans h
  exact literalSpansFrom_closed (scanFrom_flatten hscan) (scanFrom_closed hscan)

end Spans

end VmScan.Script
