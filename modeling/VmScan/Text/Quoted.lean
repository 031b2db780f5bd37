import VmScan.Text.Printable

/-!
# Quoted text in messages

Messages show a text between quotes, with everything that would not print written as an escape.

* `Quote.choose` — single quotes, unless the text holds a single quote and no double quote.
* `escapeChar` — a backslash and the quote take a backslash; line feed, carriage return and tab
  have a letter; other unprintable characters are written by number, with two, four or eight
  hexadecimal digits.
* `quoted` — the whole quoted text.
-/

namespace VmScan.Text

/-- The quote that encloses a shown text. -/
def quoteFor (cs : List Char) : Char :=
  if cs.contains '\'' && !cs.contains '"' then '"' else '\''

/-- The digit for a value below sixteen, in lower case. -/
def hexDigit (n : Nat) : Char :=
  if n < 10 then Char.ofNat (48 + n) else Char.ofNat (87 + n)

/-- The number in hexadecimal, with exactly `width` digits. -/
def hexFixed : Nat → Nat → List Char
  | 0, _ => []
  | width + 1, n => hexFixed width (n / 16) ++ [hexDigit (n % 16)]

/-- The character as it is shown inside the given quotes. -/
def escapeChar (quote c : Char) : List Char :=
  if c = '\\' || c = quote then ['\\', c]
  else if c = '\n' then ['\\', 'n']
  else if c = '\r' then ['\\', 'r']
  else if c = '\t' then ['\\', 't']
  else if isPrintable c then [c]
  else if c.toNat < 0x100 then ['\\', 'x'] ++ hexFixed 2 c.toNat
  else if c.toNat < 0x10000 then ['\\', 'u'] ++ hexFixed 4 c.toNat
  else ['\\', 'U'] ++ hexFixed 8 c.toNat

/-- The text as messages show it. -/
def quotedChars (cs : List Char) : List Char :=
  let quote := quoteFor cs
  quote :: cs.flatMap (escapeChar quote) ++ [quote]

/-- The string as messages show it. -/
def quoted (text : String) : String :=
  String.ofList (quotedChars text.toList)

end VmScan.Text
