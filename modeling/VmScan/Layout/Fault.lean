import VmScan.Packed.Fault

/-!
# Faults of the layout

* `Fault` — why a script is not laid out.
* `Fault.message` — the message of a fault.
-/

namespace VmScan.Layout

/-- Why a script is not laid out. -/
inductive Fault where
  /-- The text that a packed script carries cannot be decoded. -/
  | packed (fault : Packed.Fault)
  /-- A slash stands behind a parenthesis that closes nothing. -/
  | slashBehindLone
  deriving DecidableEq, Repr

/-- The message of a fault. -/
def Fault.message : Fault → String
  | .packed fault => fault.message
  | .slashBehindLone => "'NoneType' object has no attribute 'previous'"

end VmScan.Layout
