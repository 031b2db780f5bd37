import VmScan.Packed.Percent
import VmScan.Packed.Reversed
import VmScan.Packed.StringArray
import VmScan.Packed.WordTable

/-!
# Packed scripts

A script may carry its text in another form. There are four such forms, and a script may have
several of them.

* `Form` — the forms, each known by a test of its own.
* `unpack` — the text of a script: every form that it has is undone, in the order of `Form.all`. A
  script that is not packed the way it seems stays as it is.
-/

namespace VmScan.Packed

/-- The forms in which a script may carry its text. -/
inductive Form where
  | percent
  | stringArray
  | reversed
  | wordTable
  deriving DecidableEq, Repr

/-- All forms, in the order in which they are undone. -/
def Form.all : List Form :=
  [.percent, .stringArray, .reversed, .wordTable]

/-- Whether a script has the form. -/
def Form.holds (form : Form) (script : List Char) : Bool :=
  match form with
  | .percent => Percent.isPacked script
  | .stringArray => StringArray.isPacked script
  | .reversed => Reversed.isPacked script
  | .wordTable => (WordTable.surroundings? script).isSome

/-- Undoes a form of a script, of which other forms may have been undone before. What stands around
a table of words is taken from the script as it was given. -/
def Form.undo (form : Form) (given script : List Char) : Unpacking :=
  match form with
  | .wordTable =>
    match WordTable.surroundings? given with
    | some around => WordTable.unpack around script
    | none => return script
  | _ =>
    if !form.holds script then return script
    else match form with
      | .percent => return Percent.unpack script
      | .stringArray => OptionT.lift (StringArray.unpack script)
      | _ => Reversed.unpack script

/-- The text of a script. -/
def unpack (script : List Char) : Except Fault (List Char) :=
  let forms := Form.all.filter (·.holds script)
  let unpacking : Unpacking := forms.foldlM (fun text form => form.undo script text) script
  unpacking.run.map (·.getD script)

end VmScan.Packed
