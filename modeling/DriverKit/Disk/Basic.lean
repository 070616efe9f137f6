import DriverKit.Distinct
import DriverKit.Failure
import DriverKit.Place

/-!
# Disks

The directories and files that a build step sees. A path is followed step by step, so that two dots
lead out of the directory that was reached, and every directory on the way must exist. The working
directory, the directories above it and the root always exist. Symbolic links and permissions are left
out: an entry has one place, and a host refuses what it refuses by the path that it is asked for.

A host has limits: a name on a disk and the text of a path have only so many bytes. To ask for more
is a fault, even where the answer would be that there is nothing.

Temporary files are kept apart: the host gives them names that nothing else has, so that no path
leads to them.
-/

namespace DriverKit

/-- What is at a place. -/
inductive Entry where
  | directory
  | file (bytes : ByteArray)

namespace Entry

instance : DecidableEq Entry
  | directory, directory => isTrue rfl
  | directory, file _ => isFalse nofun
  | file _, directory => isFalse nofun
  | file left, file right =>
      decidable_of_iff (left.data = right.data) <| by
        rw [file.injEq, ByteArray.ext_iff]

def isDirectory : Entry → Bool
  | directory => true
  | file _ => false

def isFile : Entry → Bool
  | directory => false
  | file _ => true

end Entry

/-- The directories and files of a host. -/
structure Disk where
  /-- The place that relative paths start from. -/
  workingDirectory : Place
  /-- The entries by their places; of several entries for a place the first counts. -/
  entries : List (Place × Entry)
  /-- The temporary files that are there, by the places of the files they were made for. -/
  temporaries : List (Place × ByteArray)
  /-- The texts of the paths whose directories the host refuses to list, with its words. -/
  refusals : List (String × String)

namespace Disk

def empty : Disk := ⟨.root, [], [], []⟩

def at? (disk : Disk) (place : Place) : Option Entry :=
  if disk.workingDirectory.isWithin place then some .directory else disk.entries.lookup place

/-! ## Following paths -/

/-- Why a path cannot be followed. -/
inductive Obstacle where
  /-- A directory on the way is not there. -/
  | nothing
  /-- A file is on the way. -/
  | file
  /-- A name on the way, or the whole path, is longer than the host allows. -/
  | overlong
deriving DecidableEq, Repr

/-- The fault that an obstacle on the way along a path is for the host. -/
def Obstacle.fault (obstacle : Obstacle) (path : Path) : HostFault :=
  match obstacle with
  | .nothing => .missing path.text
  | .file => .notDirectory path.text
  | .overlong => .overlong path.text

/-- The most bytes that a name can have. -/
def nameLimit : Nat := 255

/-- The most bytes that the text of a path can have. -/
def pathLimit : Nat := 4095

/-- The place that steps lead to. Each step is taken from a directory, and the last one need not
lead to something. -/
def follow (disk : Disk) : Place → List String → Except Obstacle Place
  | place, [] => .ok place
  | place, step :: rest =>
      match disk.at? place with
      | some .directory =>
          if nameLimit < step.utf8ByteSize then .error .overlong
          else disk.follow (place.follow step) rest
      | some (.file _) => .error .file
      | none => .error .nothing

def place (disk : Disk) (path : Path) : Except Obstacle Place :=
  if !path.isNameable then .error .nothing
  else if pathLimit < path.text.utf8ByteSize then .error .overlong
  else disk.follow (.start disk.workingDirectory path.anchor) path.steps

/-- What is at the end of a path. That there is nothing, or no way there, is no fault. -/
def entry? (disk : Disk) (path : Path) : Except HostFault (Option Entry) :=
  match disk.place path with
  | .ok place => .ok (disk.at? place)
  | .error .overlong => .error (.overlong path.text)
  | .error _ => .ok none

def contains (disk : Disk) (path : Path) : Except HostFault Bool :=
  Option.isSome <$> disk.entry? path

def isDirectory (disk : Disk) (path : Path) : Except HostFault Bool :=
  (Option.any Entry.isDirectory) <$> disk.entry? path

def isFile (disk : Disk) (path : Path) : Except HostFault Bool :=
  (Option.any Entry.isFile) <$> disk.entry? path

/-! ## Contents -/

def read (disk : Disk) (path : Path) : Except HostFault ByteArray :=
  match disk.place path with
  | .error obstacle => .error (obstacle.fault path)
  | .ok place =>
      match disk.at? place with
      | some (.file bytes) => .ok bytes
      | some .directory => .error (.isDirectory path.text)
      | none => .error (.missing path.text)

/-- Tells whether a directory can hold something under a name. -/
def isName (name : String) : Bool :=
  isStep name.toList && name != ".." && !name.toList.contains '\x00'
    && name.utf8ByteSize ≤ nameLimit

def above (disk : Disk) : List Place :=
  (List.range (disk.workingDirectory.names.length + 1)).map fun depth =>
    ⟨disk.workingDirectory.names.take depth⟩

def names (disk : Disk) (directory : Place) : List String :=
  (distinct ((disk.above ++ disk.entries.map Prod.fst).filterMap fun place =>
    if place.directory == directory then place.names.getLast?.filter isName else none)).mergeSort
    (· ≤ ·)

def directoryNames (disk : Disk) (directory : Place) : List String :=
  (disk.names directory).filter fun name => disk.at? (directory.child name) == some .directory

/-- The names of the directories in the directory that a path leads to, by their code points. The
host must allow to ask for everything in it. -/
def subdirectories (disk : Disk) (path : Path) : Except HostFault (List String) :=
  match disk.place path with
  | .error obstacle => .error (obstacle.fault path)
  | .ok place =>
      match disk.at? place with
      | none => .error (.missing path.text)
      | some (.file _) => .error (.notDirectory path.text)
      | some .directory =>
          match disk.refusals.lookup path.text with
          | some text => .error (.denied text)
          | none =>
              let all := (disk.names place).map path.child
              match all.find? fun inner => pathLimit < inner.text.utf8ByteSize with
              | some inner => .error (.overlong inner.text)
              | none => .ok (disk.directoryNames place)

/-- The directories in the directory that a path leads to, by the code points of their names. -/
def listing (disk : Disk) (path : Path) : Except Failure (List Path) :=
  if !path.isNameable then .error (.misuse .unnameable)
  else
    match disk.subdirectories path with
    | .ok names => .ok (names.map path.child)
    | .error fault => .error (.host fault)

end Disk

end DriverKit
