import DriverKit.Disk.Change
import DriverKit.Log

/-!
# Replacing files as a whole

A file gets new contents in one step: they are written to a temporary file in the same directory,
which then takes the place of the file. Whatever goes wrong before that leaves the file as it was,
and the temporary file is removed again, if the host allows it.
-/

namespace DriverKit.Disk

/-- What the host refuses to do while a file is replaced. -/
structure ReplacementFaults where
  /-- Making the directory, after a number of those that it lies in. -/
  makeDirectory : Option (Nat × HostFault) := none
  makeTemporary : Option HostFault := none
  writeTemporary : Option HostFault := none
  moveTemporary : Option HostFault := none
  removeTemporary : Option HostFault := none

namespace ReplacementFaults

def none : ReplacementFaults := {}

end ReplacementFaults

/-- How many bytes the host adds to the name of a file for that of its temporary file. -/
def temporaryExcess : Nat := 14

/-- The place of a file that a temporary file can be made for. -/
def temporaryPlace (disk : Disk) (path : Path) : Except Failure Place :=
  if !path.isNameable then .error (.misuse .unnameable)
  else if nameLimit < path.name.utf8ByteSize + temporaryExcess then
    .error (.host (.overlong HostFault.temporaryName))
  else (disk.place path).mapError fun obstacle => .host (obstacle.fault path)

def temporaryText (path : Path) : String := "." ++ path.name ++ "." ++ HostFault.temporaryName

def refuseIf (fault : Option HostFault) : Except Failure Unit :=
  match fault with
  | some fault => .error (.host fault)
  | none => .ok ()

def addTemporary (disk : Disk) (place : Place) (bytes : ByteArray) : Disk :=
  { disk with temporaries := (place, bytes) :: disk.temporaries }

/-- Lets a file take a place, unless a directory is there. A path that names its directory by dots
leads to one that is in use. -/
def moveTo (disk : Disk) (path : Path) (place : Place) (bytes : ByteArray) :
    Except HostFault Disk :=
  if path.name == "" || path.name == ".." then .error (.replacesBusy path.text)
  else
    match disk.at? place with
    | some .directory => .error (.replacesDirectory path.text)
    | _ => .ok (disk.put place (.file bytes))

/-- Gives a file new contents; `content` may turn out not to have a form as bytes. -/
def replace (disk : Disk) (path : Path) (content : Except Failure ByteArray)
    (faults : ReplacementFaults) : Traced Unit × Disk :=
  let (made, disk) := disk.makeDirectories path.parent faults.makeDirectory
  let begun : Except Failure Place := do
    made
    refuseIf faults.makeTemporary
    disk.temporaryPlace path
  match begun with
  | .error failure => (.fail failure, disk)
  | .ok place =>
      let finished : Except Failure Disk := do
        let bytes ← content
        refuseIf faults.writeTemporary
        refuseIf faults.moveTemporary
        (disk.moveTo path place bytes).mapError .host
      match finished with
      | .ok changed => (.done (), changed)
      | .error failure =>
          match faults.removeTemporary with
          | none => (.fail failure, disk)
          | some fault =>
              (do
                Traced.say .debug .files
                  ("Could not remove temp file " ++ temporaryText path ++ ": " ++ fault.message)
                Traced.fail failure,
               disk.addTemporary place (content.toOption.getD .empty))

end DriverKit.Disk
