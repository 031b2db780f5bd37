import VmScan.Packed.Fault
import VmScan.Text.PercentCode
import VmScan.Text.Search
import VmScan.Text.Word

/-!
# Scripts in reversed base 64

An obfuscated script may carry its text in percent code, and that in base 64 and backwards, in a
string. It is known by the table of the digits that it reads the string with.

* `isPacked` — whether a script has the table.
* `unpack` — the text that it carries, behind a warning.
-/

namespace VmScan.Packed.Reversed

/-- The text in double quotes, with a hexadecimal escape for each character. -/
def escaped (text : String) : List Char :=
  '"' :: text.toList.flatMap (fun c =>
    '\\' :: 'x' :: (Text.hexFixed 2 c.toNat).map Char.toUpper) ++ ['"']

/-- The table by which packed scripts are known: the digits in base 64, the empty text, and the
names of what the script calls. -/
def table : List Char :=
  let digits := "ABCDEFGHIJKLMNOPQRSTUVWXYZabcdefghijklmnopqrstuvwxyz0123456789+/="
  let texts := [digits, "", "charAt", "indexOf", "fromCharCode", "length"]
  '[' :: [','].intercalate (texts.map escaped) ++ [']']

/-- Whether a script has the table. -/
def isPacked (script : List Char) : Bool :=
  Text.occursIn table script

/-- The word at the start, and the text behind it. -/
def cutWord? (cs : List Char) : Option (List Char × List Char) :=
  let word := cs.takeWhile Text.isWord
  if word.isEmpty then none else some (word, cs.dropWhile Text.isWord)

/-- What the text starts to evaluate: a call of a call of a name. -/
def evaluated? (cs : List Char) : Option (List Char) := do
  let (_, cs) ← cutWord? (← Text.behind? "eval(".toList cs)
  let (_, cs) ← cutWord? (← Text.behind? ['('] cs)
  let (name, cs) ← cutWord? (← Text.behind? ['('] cs)
  let _ ← Text.behind? ")));".toList cs
  return name

/-- The string that the text starts to assign to a new variable; it ends on the same line. -/
def assigned? (name cs : List Char) : Option (List Char) := do
  let cs ← Text.behind? ['v', 'a', 'r', ' '] cs
  let cs ← Text.behind? name (Text.skipSpaces cs)
  let cs ← Text.behind? ['='] (Text.skipSpaces cs)
  let cs ← Text.behind? ['\''] (Text.skipSpaces cs)
  let (text, _) ← Text.last? (Text.behind? ['\'', ';']) (cs.takeWhile (· ≠ '\n'))
  return text

/-- The string that a packed script carries. -/
def carried? (script : List Char) : Option (List Char) := do
  let (_, name) ← Text.first? evaluated? script
  let (_, text) ← Text.first? (assigned? name) script
  return text

/-- The text that a string carries. -/
def decode (text : List Char) : Except Fault (List Char) := do
  let bytes ← (Text.Base64.decode text.reverse).mapError .base64
  let code ← (Text.Utf8.decode bytes).mapError .utf8
  return Text.PercentCode.decode code

/-- The script in the markup that a text assigns at its start. -/
def markedUp? (text : List Char) : Option (List Char) := do
  let behind ← Text.behind? "var _escape='<script>".toList text
  let (script, _) ← Text.last? (Text.behind? "</script>'".toList) behind
  return script

/-- The warning in front of an unpacked script. -/
def warning : String :=
  "//\n// Unpacker warning: be careful when using myobfuscate.com for your projects:\n"
    ++ "// scripts obfuscated by the free online version call back home.\n//\n\n"

/-- The script that a packed script carries; if what it carries is no script, the packed script
stays. -/
def unpack (script : List Char) : Unpacking := do
  let text ← OptionT.mk (.ok (carried? script))
  let carried ← OptionT.lift (decode text)
  return warning.toList ++ (markedUp? carried).getD script

end VmScan.Packed.Reversed
