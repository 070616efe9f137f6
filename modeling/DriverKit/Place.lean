import DriverKit.Path

/-!
# Places

Where something can be on a disk, told by the names that lead down to it from the root. A path leads
to a place once the working directory is known. The standard form of a path is made of its names
alone, as if every step of it could be taken: absolute and relative spellings of one path have one
standard form.
-/

namespace DriverKit

/-- A place on a disk: the names that lead down to it from the root. -/
structure Place where
  names : List String
deriving DecidableEq, Repr

namespace Place

def root : Place := ⟨[]⟩

def child (directory : Place) (name : String) : Place :=
  ⟨directory.names ++ [name]⟩

def directory (place : Place) : Place :=
  ⟨place.names.dropLast⟩

def follow (place : Place) (step : String) : Place :=
  if step == ".." then place.directory else place.child step

/-- Tells whether a place lies in a tree, or is its top. -/
def isWithin (place top : Place) : Bool :=
  top.names.isPrefixOf place.names

/-- Where a path starts, seen from a working directory. -/
def start (workingDirectory : Place) : Anchor → Place
  | .here => workingDirectory
  | .root | .doubleRoot => root

end Place

namespace Path

/-- The place that a path leads to from a working directory if every one of its steps can be
taken. -/
def destination (path : Path) (workingDirectory : Place) : Place :=
  path.steps.foldl Place.follow (.start workingDirectory path.anchor)

/-- The standard form of a path. -/
structure Standard where
  /-- Whether the path is written with two slashes at its front. -/
  doubled : Bool
  place : Place
deriving DecidableEq, Repr

def standard (path : Path) (workingDirectory : Place) : Standard :=
  ⟨path.anchor == .doubleRoot, path.destination workingDirectory⟩

end Path

end DriverKit
