import DriverKit.Disk.Basic

/-!
# Changes of disks

Making directories, putting files in place and taking trees away. A new directory is empty. Where a
change of several steps fails on the way, the steps before it remain.
-/

namespace DriverKit.Disk

/-- Puts an entry at a place; what was at the place or within it is gone. -/
def put (disk : Disk) (place : Place) (entry : Entry) : Disk :=
  { disk with
    entries := (place, entry) :: disk.entries.filter fun other => !other.1.isWithin place }

/-! ## Directories -/

def makeDirectory (disk : Disk) (path : Path) : Except HostFault Disk :=
  match disk.place path with
  | .error obstacle => .error (obstacle.fault path)
  | .ok place =>
      match disk.at? place with
      | some _ => .error (.present path.text)
      | none => .ok (disk.put place .directory)

/-- Tells whether a directory cannot be made because the one that it lies in is not there. -/
def lacksParent (disk : Disk) (path : Path) : Bool :=
  match disk.makeDirectory path with
  | .error (.missing _) => true
  | _ => false

/-- A path and those of the directories that it leads through, as many as the path has steps. -/
def lineage (path : Path) : Nat → List Path
  | 0 => [path]
  | levels + 1 => path :: lineage path.parent levels

def toBeMade (disk : Disk) (path : Path) : List Path :=
  let all := lineage path path.steps.length
  let lacking := all.takeWhile disk.lacksParent
  (all.take (lacking.length + 1)).reverse

/-- Makes directories one after the other. It does no harm if one cannot be made that is there.
`failing` gives a fault of the host and the number of directories that are made before it. -/
def makeEach (failing : Option (Nat × HostFault)) (disk : Disk) :
    List Path → Except HostFault Unit × Disk
  | [] => (.ok (), disk)
  | path :: rest =>
      let attempt : Except HostFault Disk :=
        match failing with
        | some (0, fault) => .error fault
        | _ => disk.makeDirectory path
      match attempt with
      | .ok made => made.makeEach (failing.map fun (count, fault) => (count - 1, fault)) rest
      | .error fault =>
          match disk.isDirectory path with
          | .ok true => disk.makeEach failing rest
          | .ok false => (.error fault, disk)
          | .error fault => (.error fault, disk)

def makeDirectories (disk : Disk) (path : Path) (failing : Option (Nat × HostFault)) :
    Except Failure Unit × Disk :=
  if !path.isNameable then (.error (.misuse .unnameable), disk)
  else
    let (made, changed) := disk.makeEach failing (disk.toBeMade path)
    (made.mapError .host, changed)

end DriverKit.Disk
