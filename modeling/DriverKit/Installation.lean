import DriverKit.Distinct
import DriverKit.Failure

/-!
# Installations

A kit version that is installed under a root, and the choice among several: the newest, or the one
that a pin asks for.
-/

namespace DriverKit

/-- A kit version found on the host, and the way in which its root was found. -/
structure Installation where
  root : Path
  version : KitVersion
  method : String
deriving Repr

namespace Installation

def text (installation : Installation) : String :=
  "WDK " ++ installation.version.text ++ " (" ++ installation.method ++ ") at "
    ++ installation.root.text

def newer (best other : Installation) : Installation :=
  if other.version.greater best.version then other else best

/-- The installation to build against. Without a pin it is the newest, the first among equals.
With a pin it is the first of that version, missing fields counting as zero. -/
def select (installations : List Installation) (pin : Option KitVersion) :
    Except Failure Installation :=
  match installations, pin with
  | [], _ => .error (.kitNotFound [])
  | first :: rest, none => .ok (rest.foldl newer first)
  | first :: rest, some pinned =>
      match (first :: rest).find? (·.version.same pinned) with
      | some installation => .ok installation
      | none =>
          .error (.versionMismatch pinned
            (distinctBy KitVersion.same ((first :: rest).map Installation.version)))

end Installation

end DriverKit
