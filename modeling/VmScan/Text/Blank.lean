/-!
# White space

White space of running text, in every script.

* `isBlank` — the characters that separate words: the ASCII blanks, the four information
  separators, next line, and the Unicode space, line and paragraph separators.
* `strip` — a text without the blanks at its two ends.
-/

namespace VmScan.Text

/-- Whether the character is white space. -/
def isBlank (c : Char) : Bool :=
  let n := c.toNat
  (0x09 ≤ n && n ≤ 0x0D) || (0x1C ≤ n && n ≤ 0x20) || n == 0x85 || n == 0xA0 || n == 0x1680
    || (0x2000 ≤ n && n ≤ 0x200A) || n == 0x2028 || n == 0x2029 || n == 0x202F || n == 0x205F
    || n == 0x3000

/-- The text without its trailing blanks. -/
def dropTrailingBlanks (cs : List Char) : List Char :=
  (cs.reverse.dropWhile isBlank).reverse

/-- The text without the blanks at its two ends. -/
def strip (cs : List Char) : List Char :=
  dropTrailingBlanks (cs.dropWhile isBlank)

/-- The string without the blanks at its two ends. -/
def trim (text : String) : String :=
  String.ofList (strip text.toList)

end VmScan.Text
