import VmScan.Text.Search

/-!
# Places of an array

A packed script names its strings by their places in an array.

* `placeOf` — how a script names a place.
* `fillPlaces` — a script with texts in the places of an array.
-/

namespace VmScan.Packed

/-- The text that names a place of an array. -/
def placeOf (name : List Char) (index : Nat) : List Char :=
  name ++ '[' :: (toString index).toList ++ [']']

/-- The script with a text for each place of an array, the first place first; a text may name
places that follow. -/
def fillPlaces (name : List Char) (texts : List (List Char)) (script : List Char) : List Char :=
  texts.zipIdx.foldl (fun script (text, index) =>
    Text.replaceAll (placeOf name index) text script) script

end VmScan.Packed
