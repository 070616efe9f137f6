import DriverKit.Failure
import DriverKit.Text.Pieces

/-!
# Reading kit versions

A kit version is written as two or more numerals with single dots between them; blanks around it
do not count.
-/

namespace DriverKit.KitVersion

def read (text : String) : Except Failure KitVersion :=
  let kept := Text.trimmed text.toList
  let runs := Text.pieces '.' kept
  if 2 ≤ runs.length && runs.all Text.isNumeral then
    match runs.mapM Text.readNumber? with
    | some fields => .ok ⟨fields⟩
    | none => .error (.misuse .overlongNumeral)
  else .error (.invalidVersion (String.ofList kept))

def ofDatum (value : Datum) : Except Failure KitVersion := do
  read (← value.write)

end DriverKit.KitVersion
