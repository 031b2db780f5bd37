import VmScan.Text.PercentCode
import VmScan.Text.Search

/-!
# Scripts in percent code

A script for the address line of a browser has no blanks: they are written in percent code, or as
plus signs.

* `isPacked` — whether a script is written that way.
* `unpack` — its text.
-/

namespace VmScan.Packed.Percent

/-- Whether a script is in percent code: it has no blank, but an encoded one, or more than three
percent signs. -/
def isPacked (script : List Char) : Bool :=
  !script.contains ' ' && (Text.occursIn "%20".toList script || 3 < script.count '%')

/-- The text of a script in percent code. -/
def unpack (script : List Char) : List Char :=
  Text.PercentCode.decode (script.map fun c => if c = '+' then ' ' else c)

end VmScan.Packed.Percent
