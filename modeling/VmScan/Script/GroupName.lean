import VmScan.Text.Letter

/-!
# Names of groups

A group of a pattern is named by an identifier, as `str.isidentifier` has it: letters and the marks
that may follow them, a few characters apart.

* `startsIdentifier`, `continuesIdentifier` — the characters of identifiers.
* `isIdentifier` — whether a text is one.
-/

namespace VmScan.Script.Pattern

open VmScan.Text

/-- The letters that are no part of an identifier, since another form of them is none. -/
def strangeLetters : CharRanges where
  ranges := [
    (0x37a, 0x37a), (0x2e2f, 0x2e2f), (0xfc5e, 0xfc63), (0xfdfa, 0xfdfb), (0xfe70, 0xfe70),
    (0xfe72, 0xfe72), (0xfe74, 0xfe74), (0xfe76, 0xfe76), (0xfe78, 0xfe78), (0xfe7a, 0xfe7a),
    (0xfe7c, 0xfe7c), (0xfe7e, 0xfe7e)]

/-- The letters with which an identifier goes on but does not start. -/
def laterLetters : CharRanges where
  ranges := [(0xe33, 0xe33), (0xeb3, 0xeb3), (0xff9e, 0xff9f)]

/-- The characters that may start an identifier and are no letters. -/
def oddStarts : CharRanges where
  ranges := [(0x5f, 0x5f), (0x1885, 0x1886), (0x2118, 0x2118), (0x212e, 0x212e)]

/-- The characters with which an identifier may go on and that are neither letters nor marks. -/
def oddParts : CharRanges where
  ranges := [(0xb7, 0xb7), (0x387, 0x387), (0x1369, 0x1371), (0x19da, 0x19da)]

/-- Whether an identifier may start with the character. -/
def startsIdentifier (c : Char) : Bool :=
  oddStarts.contains c
    || letters.contains c && !strangeLetters.contains c && !laterLetters.contains c

/-- Whether an identifier may go on with the character. -/
def continuesIdentifier (c : Char) : Bool :=
  startsIdentifier c || laterLetters.contains c || joiners.contains c || oddParts.contains c

/-- Whether the text is an identifier. -/
def isIdentifier : List Char → Bool
  | [] => false
  | c :: cs => startsIdentifier c && cs.all continuesIdentifier

end VmScan.Script.Pattern
