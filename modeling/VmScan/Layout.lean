import VmScan.Layout.Rules
import VmScan.Layout.Scanner
import VmScan.Packed

/-!
# Layout

A script that stands on one long line is laid out on many: a statement a line, indented by its
depth.

* `layOut` — the script laid out with the given step (`beautify`), unpacked if it is packed.
-/

namespace VmScan.Layout

/-- The blanks that a script starts with; they stand in front of each line. -/
def baseIndent (script : String) : String :=
  String.ofList (script.toList.takeWhile fun c => c = '\t' || c = ' ')

/-- The line end that a script uses first; all lines of the layout end with it. -/
def lineEnd (script : String) : String :=
  match script.toList.dropWhile (!Script.isLineTerminator ·) with
  | '\r' :: '\n' :: _ => "\r\n"
  | c :: _ => c.toString
  | [] => "\n"

/-- The text of the script, laid out between the blanks and with the line ends of the script as it
was given. -/
def layOutText (indent : Nat) (script text : String) : Except Fault String :=
  (scan text).map fun tokens =>
    let page := (Writer.placeAll {} tokens).page
    (page.text { base := baseIndent script, step := indent }).replace "\n" (lineEnd script)

/-- The script laid out anew; a step indents by the given number of blanks. A packed script is
unpacked first. -/
def layOut (indent : Nat) (script : String) : Except Fault String := do
  let text ← (Packed.unpack script.toList).mapError .packed
  layOutText indent script (String.ofList text)

end VmScan.Layout
