import VmScan.Script.Escape
import VmScan.Script.GroupName

/-!
# Patterns

Which texts between slashes make up a pattern, under the grammar of `re.compile`. That one differs
in places from the grammar of the scripting language itself: names of groups are written in another
way, a set of characters is never empty, no item is repeated twice, and what is looked for behind a
place has a fixed width.

* `Symbol` — a character, or a character behind a backslash.
* `Width` — the least and the greatest number of characters that an item takes up.
* `Groups` — the groups opened so far, with their names, and with their widths once they are closed.
* `Flags` — the flags that a group turns on and off.
* `readSet?`, `readItems?`, `readBranches?` — a set of characters, a row of items, and rows
  separated by bars; each gives what is left, or nothing where the grammar refuses the text.
* `compiles` — whether the grammar takes the whole text. A character by its name makes no item here,
  and no depth of groups is too great.
* `isPattern` — whether a body between slashes is a pattern, for any grammar.
-/

namespace VmScan.Script.Pattern

open VmScan.Text

/-! ## Symbols -/

/-- A character that stands for itself or has a meaning, or one behind a backslash. -/
inductive Symbol where
  | plain (c : Char)
  | escaped (c : Char)
  deriving DecidableEq, Repr

/-- The symbols of a text; a backslash at the end makes none. -/
def symbols? : List Char → Option (List Symbol)
  | [] => some []
  | ['\\'] => none
  | '\\' :: c :: cs => (symbols? cs).map (.escaped c :: ·)
  | c :: cs => (symbols? cs).map (.plain c :: ·)

/-- The character of a symbol without a backslash. -/
def Symbol.plain? : Symbol → Option Char
  | .plain c => some c
  | .escaped _ => none

/-- The leading symbols, at most `count`, that are digits of some base. -/
def leadingDigits (isDigit : Char → Bool) (count : Nat) (symbols : List Symbol) : List Char :=
  ((symbols.take count).takeWhile (·.plain?.any isDigit)).filterMap (·.plain?)

/-- Whether the character is an ASCII letter. -/
def isAsciiLetter (c : Char) : Bool :=
  ('a' ≤ c && c ≤ 'z') || ('A' ≤ c && c ≤ 'Z')

/-! ## Escapes for characters -/

/-- The character of an escape with a letter of its own. -/
def letterEscape? : Char → Option Char
  | 'a' => some '\x07'
  | 'f' => some '\x0c'
  | 'n' => some '\n'
  | 'r' => some '\r'
  | 't' => some '\t'
  | 'v' => some '\x0b'
  | '\\' => some '\\'
  | _ => none

/-- Whether the letter stands for a class of characters. -/
def isClassLetter (c : Char) : Bool :=
  c = 'd' || c = 'D' || c = 's' || c = 'S' || c = 'w' || c = 'W'

/-- The code of an escape with exactly `count` hexadecimal digits, and the symbols behind it. -/
def hexEscape? (count : Nat) (symbols : List Symbol) : Option (Nat × List Symbol) :=
  let digits := leadingDigits isHexDigit count symbols
  if digits.length = count then some (hexDigitsValue digits, symbols.drop count) else none

/-- The code of an escape for one character in which digits count, and the symbols behind it. -/
def numberedEscape? (c : Char) (symbols : List Symbol) : Option (Option (Nat × List Symbol)) :=
  if c = 'x' then some (hexEscape? 2 symbols)
  else if c = 'u' then some (hexEscape? 4 symbols)
  else if c = 'U' then
    some ((hexEscape? 8 symbols).filter fun (code, _) => code ≤ 0x10FFFF)
  else none

/-- The value of a row of octal digits. -/
def octalValue (digits : List Char) : Nat :=
  digits.foldl (fun n c => 8 * n + (c.toNat - 48)) 0

/-! ## Sets -/

/-- A member of a set: a character by its code, or a class. -/
inductive SetItem where
  | code (n : Nat)
  | charClass
  deriving DecidableEq, Repr

/-- The member that an escape in a set writes, and the symbols behind it. -/
def setEscape? (c : Char) (symbols : List Symbol) : Option (SetItem × List Symbol) :=
  if c = 'b' then some (.code 8, symbols)
  else match letterEscape? c with
    | some letter => some (.code letter.toNat, symbols)
    | none =>
      if isClassLetter c then some (.charClass, symbols)
      else match numberedEscape? c symbols with
        | some escape => escape.map fun (code, rest) => (.code code, rest)
        | none =>
          if isOctalDigit c then
            let more := leadingDigits isOctalDigit 2 symbols
            let code := octalValue (c :: more)
            if 0o377 < code then none else some (.code code, symbols.drop more.length)
          else if isAsciiDigit c || isAsciiLetter c then none
          else some (.code c.toNat, symbols)

/-- The member of a set that a symbol begins, and the symbols behind it. -/
def setItem? (symbol : Symbol) (symbols : List Symbol) : Option (SetItem × List Symbol) :=
  match symbol with
  | .plain c => some (.code c.toNat, symbols)
  | .escaped c => setEscape? c symbols

/-- Whether two members are the ends of a range. -/
def isRange : SetItem → SetItem → Bool
  | .code low, .code high => low ≤ high
  | _, _ => false

/-- The symbols behind the closing bracket of a set; a bracket is a member where it comes
`first`. -/
def readSet? : Nat → Bool → List Symbol → Option (List Symbol)
  | 0, _, _ => none
  | _, _, [] => none
  | fuel + 1, first, symbol :: rest =>
    if symbol = .plain ']' && !first then some rest
    else do
      let (item, rest) ← setItem? symbol rest
      match rest with
      | .plain '-' :: .plain ']' :: rest => some rest
      | .plain '-' :: [] => none
      | .plain '-' :: symbol :: rest =>
        let (last, rest) ← setItem? symbol rest
        if isRange item last then readSet? fuel false rest else none
      | rest => readSet? fuel false rest

/-! ## Widths and groups -/

/-- More repetitions than can be asked for. -/
def manyTimes : Nat := 4294967295

/-- More characters than are counted. -/
def manyChars : Nat := Nat.pow 2 64

/-- The least and the greatest number of characters that an item takes up. -/
structure Width where
  least : Nat
  most : Nat
  deriving DecidableEq, Repr

/-- The width of nothing. -/
def Width.zero : Width := ⟨0, 0⟩

/-- The width of one character. -/
def Width.one : Width := ⟨1, 1⟩

/-- The width of one item behind another. -/
def Width.append (a b : Width) : Width :=
  ⟨min (a.least + b.least) manyChars, min (a.most + b.most) manyChars⟩

/-- The width of one item or another. -/
def Width.union (a b : Width) : Width :=
  ⟨min a.least b.least, max a.most b.most⟩

/-- The width of an item between `least` and `most` times. -/
def Width.times (a : Width) (least most : Nat) : Width :=
  ⟨min (a.least * least) manyChars,
    if most = manyTimes && a.most ≠ 0 then manyChars else min (a.most * most) manyChars⟩

/-- Whether an item of this width can be looked for behind a place. -/
def Width.isFixed (a : Width) : Bool :=
  a.least ≤ manyTimes && a.least = a.most

/-- A group: its name if it has one, and its width once it is closed. -/
structure Group where
  name : Option (List Char)
  width : Option Width := none

/-- What is known from the symbols read so far: the groups, the number of groups there were where
the outermost look behind began, the greatest number of a group on which a row depends, the flags of
the whole pattern, and whether an item is repeated. -/
structure Groups where
  all : List Group := []
  behind : Option Nat := none
  asked : Nat := 0
  flags : List Char := []
  repeats : Bool := false

/-- The groups with one more, which is open; `none` where another one has its name. -/
def Groups.open? (groups : Groups) (name : Option (List Char)) : Option Groups :=
  if name.isSome && groups.all.any (·.name = name) then none
  else some { groups with all := groups.all ++ [{ name }] }

/-- The groups with the given one closed. -/
def Groups.close (groups : Groups) (index : Nat) (width : Width) : Groups :=
  { groups with all := groups.all.modify index ({ · with width := some width }) }

/-- The number of the group with the given name, counted from one. -/
def Groups.named? (groups : Groups) (name : List Char) : Option Nat :=
  (groups.all.findIdx? (·.name = some name)).map (· + 1)

/-- The width of the group with the given number, if that is closed. -/
def Groups.closed? (groups : Groups) (number : Nat) : Option Width :=
  if number = 0 then none else groups.all[number - 1]?.bind (·.width)

/-- Whether a look behind that is open lets the group be referred to. -/
def Groups.isOutside (groups : Groups) (number : Nat) : Bool :=
  groups.behind.all fun count => (groups.closed? number).isSome && number ≤ count

/-- The width of the group with the given number, if it can be referred to. -/
def Groups.reference? (groups : Groups) (number : Nat) : Option Width :=
  if groups.isOutside number then groups.closed? number else none

/-- The groups once an item is repeated. -/
def Groups.repeated (groups : Groups) : Groups :=
  { groups with repeats := true }

/-! ## Items -/

/-- What an item in front of a repetition is. -/
inductive Before where
  | nothing
  | anchor
  | repetition
  | item
  deriving DecidableEq, Repr

/-- An item that an escape outside sets writes: its kind, its width, and the symbols behind it. -/
def readEscape? (groups : Groups) (c : Char) (symbols : List Symbol) :
    Option (Before × Width × List Symbol) :=
  if c = 'A' || c = 'b' || c = 'B' || c = 'Z' then some (.anchor, .zero, symbols)
  else if isClassLetter c || (letterEscape? c).isSome then some (.item, .one, symbols)
  else match numberedEscape? c symbols with
    | some escape => escape.map fun (_, rest) => (.item, .one, rest)
    | none =>
      if c = '0' then
        some (.item, .one, symbols.drop (leadingDigits isOctalDigit 2 symbols).length)
      else if isAsciiDigit c then
        let second := leadingDigits isAsciiDigit 1 symbols
        let third := leadingDigits isOctalDigit 1 (symbols.drop 1)
        if (c :: second).all isOctalDigit && second.length = 1 && third.length = 1 then
          if 0o377 < octalValue (c :: second ++ third) then none
          else some (.item, .one, symbols.drop 2)
        else
          (groups.reference? (asciiDigitsValue (c :: second))).map fun width =>
            (.item, width, symbols.drop second.length)
      else if isAsciiLetter c then none
      else some (.item, .one, symbols)

/-- How often an item is repeated. -/
structure Repetition where
  least : Nat
  most : Nat

/-- What an opening brace writes: a repetition, a brace that stands for itself, or nothing. -/
inductive Braces where
  | repetition (times : Repetition) (rest : List Symbol)
  | plain
  | refused

/-- The repetition behind an opening brace. -/
def readBraces (symbols : List Symbol) : Braces :=
  if symbols.head? = some (.plain '\x7d') then .plain
  else
    let low := leadingDigits isAsciiDigit symbols.length symbols
    let rest := symbols.drop low.length
    let (high, rest) :=
      match rest with
      | .plain ',' :: rest =>
        let high := leadingDigits isAsciiDigit rest.length rest
        (high, rest.drop high.length)
      | rest => (low, rest)
    match rest with
    | .plain '\x7d' :: rest =>
      let least := asciiDigitsValue low
      let most := if high.isEmpty then manyTimes else asciiDigitsValue high
      if manyTimes ≤ least && !low.isEmpty || manyTimes ≤ most && !high.isEmpty || most < least then
        .refused
      else .repetition ⟨least, most⟩ rest
    | _ => .plain

/-- The symbols behind a mark that makes a repetition lazy or possessive. -/
def dropGreed : List Symbol → List Symbol
  | .plain '?' :: rest => rest
  | .plain '+' :: rest => rest
  | symbols => symbols

/-! ## Flags -/

/-- The letters that stand for a flag. -/
def flagLetters : List Char := ['i', 'L', 'm', 's', 'x', 'a', 't', 'u']

/-- Whether the flag says which alphabet classes of characters are for. -/
def isAlphabetFlag (c : Char) : Bool :=
  c = 'a' || c = 'L' || c = 'u'

/-- The flags that a group turns on and off. -/
structure Flags where
  on : List Char
  off : List Char

/-- The flags `on` and those that the symbols turn on, with the mark that ends them. -/
def readFlagsOn? (on : List Char) : List Symbol → Option (List Char × Char × List Symbol)
  | .plain c :: rest =>
    if c = ':' || c = ')' || c = '-' then some (on, c, rest)
    -- of the alphabets one is for bytes only, and the other two exclude each other
    else if !flagLetters.contains c || c = 'L'
        || isAlphabetFlag c && on.any fun other => isAlphabetFlag other && other ≠ c then none
    else readFlagsOn? (on ++ [c]) rest
  | _ => none

/-- The flags `off` and those that the symbols turn off, up to a colon. -/
def readFlagsOff? (off : List Char) : List Symbol → Option (List Char × List Symbol)
  | .plain c :: rest =>
    if c = ':' && !off.isEmpty then some (off, rest)
    else if !flagLetters.contains c || isAlphabetFlag c then none
    else readFlagsOff? (off ++ [c]) rest
  | _ => none

/-- What the flags behind an opening bracket and a question mark are for. -/
inductive FlagGroup where
  | whole (on : List Char)
  | inside (flags : Flags)

/-- The flags for the whole pattern or for the inside of a group. -/
def readFlags? (symbols : List Symbol) : Option (FlagGroup × List Symbol) := do
  let (on, mark, rest) ← readFlagsOn? [] symbols
  if mark = ')' then
    return (.whole on, rest)
  if on.contains 't' then none
  let (off, rest) ← if mark = ':' then some ([], rest) else readFlagsOff? [] rest
  if off.contains 't' || on.any off.contains then none
  return (.inside ⟨on, off⟩, rest)

/-- Whether blanks and comments inside a group are skipped, by its flags. -/
def Flags.skips (flags : Flags) (outside : Bool) : Bool :=
  (outside || flags.on.contains 'x') && !flags.off.contains 'x'

/-! ## Groups by their first symbols -/

/-- The name that is closed by the mark, and the symbols behind that. -/
def readName? (mark : Char) (symbols : List Symbol) : Option (List Char × List Symbol) :=
  let name := (symbols.takeWhile (· ≠ .plain mark)).filterMap (·.plain?)
  let rest := symbols.dropWhile (· ≠ .plain mark)
  if name.length + rest.length = symbols.length && !name.isEmpty && !rest.isEmpty then
    some (name, rest.drop 1)
  else none

/-- The kinds of group. -/
inductive GroupKind where
  | capturing (name : Option (List Char))
  | plain (flags : Flags)
  | ahead
  | behind
  | comment
  | reference (name : List Char)
  | conditional (name : List Char)
  | flags (on : List Char)

/-- The group behind an opening bracket, a question mark and the letter of the extensions. -/
def extension? : List Symbol → Option (GroupKind × List Symbol)
  | .plain '<' :: rest =>
    (readName? '>' rest).bind fun (name, rest) =>
      if isIdentifier name then some (.capturing (some name), rest) else none
  | .plain '=' :: rest =>
    (readName? ')' rest).bind fun (name, rest) =>
      if isIdentifier name then some (.reference name, rest) else none
  | _ => none

/-- The kind of the group behind an opening bracket, and its contents. -/
def groupKind? : List Symbol → Option (GroupKind × List Symbol)
  | .plain '?' :: .plain ':' :: rest => some (.plain ⟨[], []⟩, rest)
  | .plain '?' :: .plain '>' :: rest => some (.plain ⟨[], []⟩, rest)
  | .plain '?' :: .plain '=' :: rest => some (.ahead, rest)
  | .plain '?' :: .plain '!' :: rest => some (.ahead, rest)
  | .plain '?' :: .plain '<' :: .plain '=' :: rest => some (.behind, rest)
  | .plain '?' :: .plain '<' :: .plain '!' :: rest => some (.behind, rest)
  | .plain '?' :: .plain '#' :: rest => some (.comment, rest)
  | .plain '?' :: .plain 'P' :: rest => extension? rest
  | .plain '?' :: .plain '(' :: rest =>
    (readName? ')' rest).map fun (name, rest) => (.conditional name, rest)
  | .plain '?' :: .plain c :: rest =>
    if c = ':' || c = ')' then none
    else (readFlags? (.plain c :: rest)).map fun
      | (.whole on, rest) => (.flags on, rest)
      | (.inside flags, rest) => (.plain flags, rest)
  | .plain '?' :: _ => none
  | rest => some (.capturing none, rest)

/-- The symbols behind a closing bracket. -/
def closeGroup? : List Symbol → Option (List Symbol)
  | .plain ')' :: rest => some rest
  | _ => none

/-- The symbols behind the bracket that closes a comment. -/
def skipComment? (symbols : List Symbol) : Option (List Symbol) :=
  closeGroup? (symbols.dropWhile (· ≠ .plain ')'))

/-- The number of the group on which a row depends, by its number or its name. -/
def Groups.asked? (groups : Groups) (name : List Char) : Option Nat :=
  if name.all isAsciiDigit then
    if asciiDigitsValue name = 0 then none else some (asciiDigitsValue name)
  else if isIdentifier name then groups.named? name
  else none

/-- The groups once a row depends on the one with this number or name. A number that is too great
is found out at the end. -/
def Groups.depend? (groups : Groups) (name : List Char) : Option Groups := do
  let number ← groups.asked? name
  if groups.isOutside number then some { groups with asked := max groups.asked number } else none

/-- Whether the character is skipped where blanks are. -/
def isPatternBlank (c : Char) : Bool :=
  c = ' ' || c = '\t' || c = '\n' || c = '\r' || c = '\x0b' || c = '\x0c'

/-! ## Rows of items -/

mutual

/-- A row of items. `done` is the width of all but the last item, and `kind` and `width` tell of
the last. Flags for the whole pattern stand at its start, in the `first` row. -/
def readItems? (fuel : Nat) (groups : Groups) (first skips : Bool) (done : Width) (kind : Before)
    (width : Width) (symbols : List Symbol) : Option (Width × Groups × List Symbol) :=
  match fuel with
  | 0 => none
  | fuel + 1 =>
    let same (groups : Groups) (skips : Bool) (rest : List Symbol) :=
      readItems? fuel groups first skips done kind width rest
    let item (groups : Groups) (kind' : Before) (width' : Width) (rest : List Symbol) :=
      readItems? fuel groups first skips (done.append width) kind' width' rest
    let repetition (least most : Nat) (rest : List Symbol) :=
      if kind = .nothing || kind = .anchor || kind = .repetition then none
      else
        readItems? fuel groups.repeated first skips done .repetition (width.times least most)
          (dropGreed rest)
    match symbols with
    | [] => some (done.append width, groups, [])
    | .escaped c :: rest => do
      let (kind', width', rest) ← readEscape? groups c rest
      item groups kind' width' rest
    | .plain c :: rest =>
      if c = '|' || c = ')' then some (done.append width, groups, symbols)
      else if skips && isPatternBlank c then same groups skips rest
      else if skips && c = '#' then same groups skips ((rest.dropWhile (· ≠ .plain '\n')).drop 1)
      else if c = '^' || c = '$' then item groups .anchor .zero rest
      else if c = '[' then do
        let body := if rest.head? = some (.plain '^') then rest.drop 1 else rest
        let rest ← readSet? (body.length + 1) true body
        item groups .item .one rest
      else if c = '?' then repetition 0 1 rest
      else if c = '*' then repetition 0 manyTimes rest
      else if c = '+' then repetition 1 manyTimes rest
      else if c = '\x7b' then
        match readBraces rest with
        | .plain => item groups .item .one rest
        | .refused => none
        | .repetition times rest => repetition times.least times.most rest
      else if c = '(' then do
        let (group, rest) ← groupKind? rest
        match group with
        | .comment =>
          let rest ← skipComment? rest
          same groups skips rest
        | .flags on =>
          if !first || kind ≠ .nothing then none
          let groups := { groups with flags := groups.flags ++ on }
          same groups (groups.flags.contains 'x') rest
        | .reference name =>
          let width' ← (groups.named? name).bind groups.reference?
          item groups .item width' rest
        | .capturing name =>
          let inside ← groups.open? name
          let (width', inside, rest) ← readBranches? fuel inside false skips rest
          let rest ← closeGroup? rest
          item (inside.close groups.all.length width') .item width' rest
        | .plain flags =>
          let (width', inside, rest) ← readBranches? fuel groups false (flags.skips skips) rest
          let rest ← closeGroup? rest
          item inside .item width' rest
        | .ahead =>
          let (_, inside, rest) ← readBranches? fuel groups false skips rest
          let rest ← closeGroup? rest
          item inside .item .zero rest
        | .behind =>
          let inside := { groups with behind := some (groups.behind.getD groups.all.length) }
          let (width', inside, rest) ← readBranches? fuel inside false skips rest
          let rest ← closeGroup? rest
          if !width'.isFixed then none
          item { inside with behind := groups.behind } .item .zero rest
        | .conditional name =>
          let inside ← groups.depend? name
          let (width', inside, rest) ←
            readItems? fuel inside false skips .zero .nothing .zero rest
          let (width', inside, rest) ←
            match rest with
            | .plain '|' :: rest => do
              let (other, inside, rest) ←
                readItems? fuel inside false skips .zero .nothing .zero rest
              some (width'.union other, inside, rest)
            | rest => some (width'.union .zero, inside, rest)
          let rest ← closeGroup? rest
          item inside .item width' rest
      else item groups .item .one rest
termination_by 2 * fuel

/-- Rows of items separated by bars. On the outside, blanks are skipped once a row has set the flag
for it. -/
def readBranches? (fuel : Nat) (groups : Groups) (first skips : Bool) (symbols : List Symbol) :
    Option (Width × Groups × List Symbol) :=
  match fuel with
  | 0 => none
  | fuel + 1 => do
    let (width, groups, rest) ← readItems? fuel groups first skips .zero .nothing .zero symbols
    match rest with
    | .plain '|' :: rest =>
      let (width', groups, rest) ←
        readBranches? fuel groups false (skips || first && groups.flags.contains 'x') rest
      return (width.union width', groups, rest)
    | rest => return (width, groups, rest)
termination_by 2 * fuel

end

/-! ## Whole patterns -/

/-- The character that stands for every character beyond the first plane. -/
def astral : Char := Char.ofNat 0xFFFF

/-- The pattern with its escapes of code points replaced by the characters they write; `none`
where one of them lies beyond the last code point. -/
def expandCodePoints? : List Char → Option (List Char)
  | [] => some []
  | '\\' :: 'u' :: '\x7b' :: cs =>
    let digits := cs.takeWhile isHexDigit
    let code := hexDigitsValue digits
    if digits.isEmpty || (cs.drop digits.length).head? ≠ some '\x7d' then
      (expandCodePoints? cs).map (['\\', 'u', '\x7b'] ++ ·)
    else if 0x10FFFF < code then none
    else
      let c := if code ≤ 0xFFFF then Char.ofNat code else astral
      (expandCodePoints? (cs.drop (digits.length + 1))).map (c :: ·)
  | c :: cs => (expandCodePoints? cs).map (c :: ·)
termination_by cs => cs.length
decreasing_by all_goals simp only [List.length_cons, List.length_drop]; omega

/-- Whether what is known at the end fits together: every row depends on a group that there is, the
pattern is not for two alphabets, and a pattern that repeats nothing repeats nothing. -/
def Groups.isSound (groups : Groups) : Bool :=
  groups.asked ≤ groups.all.length && !(groups.flags.contains 'a' && groups.flags.contains 'u')
    && !(groups.flags.contains 't' && groups.repeats)

/-- Whether the grammar takes the text. -/
def compiles (text : List Char) : Bool :=
  (do
    let symbols ← symbols? text
    let (_, groups, rest) ← readBranches? (2 * symbols.length + 3) {} true false symbols
    if rest.isEmpty && groups.isSound then some () else none).isSome

/-- Whether a body between slashes is a pattern, by a test on texts; the flag `u` gives code points
in braces a meaning. -/
def isPattern (takes : List Char → Bool) (body flags : List Char) : Bool :=
  (if flags.contains 'u' then expandCodePoints? body else some body).any takes

end VmScan.Script.Pattern
