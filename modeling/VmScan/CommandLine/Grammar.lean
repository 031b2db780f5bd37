import VmScan.Text.Digit
import VmScan.Text.Lines
import VmScan.Text.Quoted
import VmScan.Text.Search

/-!
# Grammars of command lines

A command line is a row of words and flags. A flag has one or more names, of which the long ones
may be shortened as long as they stay unique; it may take a value, behind an equals sign or as the
next word. Short flags without a value may be run together.

* `Flag`, `Grammar` — the flags and the positional argument of a command line, each with its
  effect on the settings `σ` that are being read.
* `Grammar.tokens` — what each text on the command line is, independent of what stands before it.
* `Grammar.read` — the settings, with the texts that had no place; or the reason to stop.
-/

namespace VmScan.CommandLine

/-! ## Grammars -/

/-- What a flag does. -/
inductive Effect (σ : Type) where
  /-- Stops with the help text. -/
  | help
  /-- Takes no value. -/
  | switch (set : σ → σ)
  /-- Takes a value, or refuses it with a message. -/
  | value (set : String → σ → Except String σ)

/-- Whether a flag with this effect takes a value. -/
def Effect.takesValue {σ : Type} : Effect σ → Bool
  | .value _ => true
  | _ => false

/-- A flag with its names. -/
structure Flag (σ : Type) where
  names : List String
  effect : Effect σ

/-- The name of a flag in messages. -/
def Flag.label {σ : Type} (flag : Flag σ) : String :=
  "/".intercalate flag.names

/-- Why reading a command line stops. -/
inductive Stop where
  /-- The help text is asked for. -/
  | help (lines : List String)
  /-- The line is refused by the named program. -/
  | refused (usage : List String) (program message : String)
  deriving DecidableEq, Repr

/-- The positional argument. -/
inductive Positional (σ : Type) where
  /-- There is none. -/
  | absent
  /-- A word that must be there. -/
  | word (name : String) (set : String → σ → σ)
  /-- A word that need not be there and takes everything behind it along; what has no place there
  is given back. -/
  | command (name : String) (choices : List String)
    (read : String → List String → σ → Except Stop (σ × List String))

/-- The grammar of a command line. -/
structure Grammar (σ : Type) where
  program : String
  /-- The help text; its first paragraph is the usage. -/
  help : List String
  flags : List (Flag σ)
  positional : Positional σ

namespace Grammar

variable {σ : Type}

/-- The usage. -/
def usage (grammar : Grammar σ) : List String :=
  grammar.help.takeWhile (· ≠ "")

/-- The refusal of a line with a message. -/
def refuse (grammar : Grammar σ) (message : String) : Stop :=
  .refused grammar.usage grammar.program message

/-- The refusal of a line with a message about a flag or an argument. -/
def refuseArgument (grammar : Grammar σ) (label message : String) : Stop :=
  grammar.refuse s!"argument {label}: {message}"

/-! ## Texts on a command line -/

/-- What is written behind a flag in the same text. -/
inductive Attachment where
  | absent
  | behindEquals (text : String)
  | adjacent (text : String)
  deriving DecidableEq, Repr

/-- What a text on a command line is. -/
inductive Token (σ : Type) where
  | word
  /-- Behind it, everything is a word. -/
  | separator
  | flag (flag : Flag σ) (name : String) (attached : Attachment)
  | unknown

/-- The flag with exactly this name. -/
def flagNamed? (grammar : Grammar σ) (name : String) : Option (Flag σ) :=
  grammar.flags.find? (name ∈ ·.names)

/-- All names of flags, with their flags. -/
def namedFlags (grammar : Grammar σ) : List (String × Flag σ) :=
  grammar.flags.flatMap fun flag => flag.names.map fun name => (name, flag)

/-- The text in front of the first equals sign and the one behind it. -/
def splitEquals? (text : String) : Option (String × String) :=
  match text.toList.dropWhile (· ≠ '=') with
  | [] => none
  | _ :: value => some (String.ofList (text.toList.takeWhile (· ≠ '=')), String.ofList value)

/-- A flag that a text may mean, with the name and what is attached to it. -/
abbrev Reading (σ : Type) := Flag σ × String × Attachment

/-- The flags that a text with two dashes in front may mean. -/
def longReadings (grammar : Grammar σ) (text : String) : List (Reading σ) :=
  let (start, attached) : String × Attachment := match splitEquals? text with
    | some (start, value) => (start, .behindEquals value)
    | none => (text, .absent)
  grammar.namedFlags.filterMap fun (name, flag) =>
    if start.toList.isPrefixOf name.toList then some (flag, name, attached) else none

/-- The flags that a text with one dash in front may mean. -/
def shortReadings (grammar : Grammar σ) (text : String) : List (Reading σ) :=
  let short := String.ofList (text.toList.take 2)
  grammar.namedFlags.filterMap fun (name, flag) =>
    if name = short then some (flag, name, .adjacent (String.ofList (text.toList.drop 2)))
    else if text.toList.isPrefixOf name.toList then some (flag, name, .absent)
    else none

/-- The flags that a text may mean without being the whole name of one. -/
def readings (grammar : Grammar σ) (text : String) : List (Reading σ) :=
  if text.startsWith "--" then grammar.longReadings text else grammar.shortReadings text

/-- Whether the text is a negative number. -/
def isNegativeNumber (text : String) : Bool :=
  match text.toList with
  | '-' :: body =>
    let whole := body.takeWhile Text.isDecimalDigit
    match body.dropWhile Text.isDecimalDigit with
    | [] => !whole.isEmpty
    | '.' :: fraction => !fraction.isEmpty && fraction.all Text.isDecimalDigit
    | _ => false
  | _ => false

/-- The token of a text that starts with a dash and is no whole name of a flag. -/
def looseToken (grammar : Grammar σ) (text : String) : Except Stop (Token σ) :=
  match grammar.readings text with
  | [(flag, name, attached)] => .ok (.flag flag name attached)
  | [] =>
    if isNegativeNumber text || Text.mentions text " " then .ok .word else .ok .unknown
  | several =>
    let names := ", ".intercalate (several.map (·.2.1))
    .error (grammar.refuse s!"ambiguous option: {text} could match {names}")

/-- The token of a text in front of the separator. -/
def token (grammar : Grammar σ) (text : String) : Except Stop (Token σ) :=
  if !text.startsWith "-" then .ok .word
  else match grammar.flagNamed? text with
    | some flag => .ok (.flag flag text .absent)
    | none =>
      if text = "-" then .ok .word
      else match splitEquals? text with
        | none => grammar.looseToken text
        | some (name, value) =>
          match grammar.flagNamed? name with
          | some flag => .ok (.flag flag name (.behindEquals value))
          | none => grammar.looseToken text

/-- A text with its token. -/
abbrev Item (σ : Type) := String × Token σ

/-- The tokens of a command line. -/
def tokens (grammar : Grammar σ) : List String → Except Stop (List (Item σ))
  | [] => .ok []
  | text :: rest =>
    if text = "--" then .ok ((text, .separator) :: rest.map fun word => (word, .word))
    else do
      let token ← grammar.token text
      return (text, token) :: (← grammar.tokens rest)

/-! ## Reading -/

/-- The settings so far, whether the positional argument has been read, and the texts that had no
place. -/
structure Progress (σ : Type) where
  settings : σ
  placed : Bool := false
  extras : List String := []

/-- A flag with its value, if it takes one. -/
abbrev Use (σ : Type) := Flag σ × Option String

/-- What a text that starts with a flag stands for: the uses of flags, the flag whose value is
still to come, and a text that has no place. -/
structure Cluster (σ : Type) where
  uses : List (Use σ) := []
  last : Option (Flag σ) := none
  extra : Option String := none

/-- The refusal of a text behind a flag that takes no value. -/
def ignored (grammar : Grammar σ) (flag : Flag σ) (text : List Char) : Stop :=
  grammar.refuseArgument flag.label
    ("ignored explicit argument " ++ Text.quoted (String.ofList text))

/-- The flags that a flag with attached text stands for: itself with its value, or several short
flags that are run together, the last of them perhaps with a value. What follows the last flag
that is known has no place. -/
def cluster (grammar : Grammar σ) (flag : Flag σ) (name : String) (isBehindEquals : Bool)
    (text : List Char) : Except Stop (Cluster σ) :=
  if flag.effect.takesValue then .ok { uses := [(flag, some (String.ofList text))] }
  else match text with
    | [] => .error (grammar.ignored flag text)
    | c :: cs =>
      if name.startsWith "--" || isBehindEquals || c = '-' then .error (grammar.ignored flag text)
      else
        let nextName := String.ofList ['-', c]
        match grammar.flagNamed? nextName, cs with
        | none, _ => .ok { uses := [(flag, none)], extra := some (String.ofList ('-' :: text)) }
        | some next, [] => .ok { uses := [(flag, none)], last := some next }
        | some next, '=' :: value => do
          let inner ← grammar.cluster next nextName true value
          return { inner with uses := (flag, none) :: inner.uses }
        | some next, d :: rest => do
          let inner ← grammar.cluster next nextName false (d :: rest)
          return { inner with uses := (flag, none) :: inner.uses }

/-- The use of a flag whose value is the next word, and the items behind it. -/
def useWithNext (grammar : Grammar σ) (flag : Flag σ) (rest : List (Item σ)) :
    Except Stop (Use σ × List (Item σ)) :=
  if flag.effect.takesValue then
    match rest with
    | (text, .word) :: rest => .ok ((flag, some text), rest)
    | _ => .error (grammar.refuseArgument flag.label "expected one argument")
  else .ok ((flag, none), rest)

/-- The uses of flags that an item stands for, the text in it that has no place, and the items
behind it. -/
def uses (grammar : Grammar σ) (flag : Flag σ) (name : String) (attached : Attachment)
    (rest : List (Item σ)) : Except Stop (List (Use σ) × List String × List (Item σ)) := do
  let found ← match attached with
    | .absent => pure { last := some flag }
    | .behindEquals text => grammar.cluster flag name true text.toList
    | .adjacent text => grammar.cluster flag name false text.toList
  match found.last with
  | none => return (found.uses, found.extra.toList, rest)
  | some last =>
    let (use, rest) ← grammar.useWithNext last rest
    return (found.uses ++ [use], found.extra.toList, rest)

/-- The settings after the use of a flag. -/
def apply (grammar : Grammar σ) (settings : σ) (use : Use σ) : Except Stop σ :=
  match use.1.effect with
  | .help => .error (.help grammar.help)
  | .switch set => .ok (set settings)
  | .value set => (set (use.2.getD "") settings).mapError (grammar.refuseArgument use.1.label)

/-- The words that the positional argument takes from the items, if it is there, and the items
behind it. -/
def takePositional (grammar : Grammar σ) : List (Item σ) → Option (List String × List (Item σ))
  | (text, .word) :: rest =>
    match grammar.positional with
    | .absent => none
    | .command .. => some (text :: rest.map (·.1), [])
    | .word .. =>
      match rest with
      | (_, .separator) :: rest => some ([text], rest)
      | rest => some ([text], rest)
  | (text, .separator) :: (word, .word) :: rest =>
    match grammar.positional with
    | .absent => none
    | .command .. => some (text :: word :: rest.map (·.1), [])
    | .word .. => some ([word], rest)
  | _ => none

/-- The settings after the positional argument, and what had no place in it. -/
def place (grammar : Grammar σ) (settings : σ) (words : List String) :
    Except Stop (σ × List String) :=
  match grammar.positional, words with
  | .word _ set, word :: _ => .ok (set word settings, [])
  | .command name choices read, word :: rest =>
    if word ∈ choices then read word rest settings
    else
      let listed := ", ".intercalate (choices.map Text.quoted)
      .error (grammar.refuseArgument name
        ("invalid choice: " ++ Text.quoted word ++ s!" (choose from {listed})"))
  | _, _ => .ok (settings, [])

/-- Reads the items. What the positional argument gives back is kept behind everything that had
no place here. -/
def readItems (grammar : Grammar σ) (progress : Progress σ) (inner : List String) :
    List (Item σ) → Except Stop (Progress σ × List String)
  | [] => .ok (progress, inner)
  | (text, token) :: rest =>
    match token with
    | .unknown =>
      grammar.readItems { progress with extras := progress.extras ++ [text] } inner rest
    | .flag flag name attached =>
      match grammar.uses flag name attached rest with
      | .error stop => .error stop
      | .ok (uses, more, behind) =>
        match uses.foldlM grammar.apply progress.settings with
        | .error stop => .error stop
        | .ok settings =>
          let extras := progress.extras ++ more
          if behind.length < rest.length + 1 then
            grammar.readItems { progress with settings, extras } inner behind
          else .ok (progress, inner)
    | .word | .separator =>
      match (if progress.placed then none else grammar.takePositional ((text, token) :: rest)) with
      | none => grammar.readItems { progress with extras := progress.extras ++ [text] } inner rest
      | some (words, behind) =>
        match grammar.place progress.settings words with
        | .error stop => .error stop
        | .ok (settings, given) =>
          if behind.length < rest.length + 1 then
            grammar.readItems { progress with settings, placed := true } (inner ++ given) behind
          else .ok (progress, inner)
termination_by items => items.length

/-- The settings that a command line gives, starting from `initial`, with the texts that had no
place. -/
def read (grammar : Grammar σ) (initial : σ) (texts : List String) :
    Except Stop (σ × List String) := do
  let items ← grammar.tokens texts
  let (progress, inner) ← grammar.readItems { settings := initial } [] items
  match grammar.positional, progress.placed with
  | .word name _, false =>
    .error (grammar.refuse s!"the following arguments are required: {name}")
  | _, _ => .ok (progress.settings, progress.extras ++ inner)

/-- The settings that a whole command line gives; every text must have its place. -/
def readAll (grammar : Grammar σ) (initial : σ) (texts : List String) : Except Stop σ := do
  match ← grammar.read initial texts with
  | (settings, []) => return settings
  | (_, extras) =>
    let listed := " ".intercalate extras
    .error (grammar.refuse s!"unrecognized arguments: {listed}")

end Grammar

end VmScan.CommandLine
