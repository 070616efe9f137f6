import DriverKit.Text.Pieces

/-!
# Paths

Paths of files and directories, with slashes between their steps. Empty steps and steps that are a
single dot mean nothing and are left out; a step of two dots is kept, since what it means depends
on the disk. A path that begins with exactly two slashes is told apart from one that begins with
one, or with more.
-/

namespace DriverKit

def isStep (characters : List Char) : Bool :=
  !characters.isEmpty && characters != ['.'] && !characters.contains '/'

/-- Where a path starts. -/
inductive Anchor where
  /-- At the working directory. -/
  | here
  /-- At the root. -/
  | root
  /-- At the root, written with two slashes. -/
  | doubleRoot
deriving DecidableEq, Repr

/-- A path: where it starts and its steps. -/
structure Path where
  anchor : Anchor
  steps : List String
  steps_valid : steps.all (isStep ·.toList) = true
deriving DecidableEq, Repr

namespace Path

/-! ## Reading -/

/-- The steps that a run of characters holds. -/
def stepsOf (characters : List Char) : List String :=
  ((Text.pieces '/' characters).filter isStep).map String.ofList

theorem stepsOf_valid (characters : List Char) :
    (stepsOf characters).all (isStep ·.toList) = true := by
  simp [stepsOf]

/-- Where a run of characters starts as a path. -/
def anchorOf : List Char → Anchor
  | '/' :: '/' :: '/' :: _ => .root
  | '/' :: '/' :: _ => .doubleRoot
  | '/' :: _ => .root
  | _ => .here

def ofText (text : String) : Path :=
  ⟨anchorOf text.toList, stepsOf text.toList, stepsOf_valid text.toList⟩

def current : Path := ⟨.here, [], rfl⟩

/-! ## Writing -/

/-- What stands before the steps. -/
def Anchor.text : Anchor → String
  | .here => ""
  | .root => "/"
  | .doubleRoot => "//"

def text (path : Path) : String :=
  if path.anchor == .here && path.steps.isEmpty then "."
  else Anchor.text path.anchor ++ "/".intercalate path.steps

instance : ToString Path := ⟨text⟩

/-! ## Parts and combinations -/

def extend (path : Path) (characters : List Char) : Path :=
  ⟨path.anchor, path.steps ++ stepsOf characters, by
    rw [List.all_append, path.steps_valid, stepsOf_valid]; rfl⟩

/-- What a path names within a directory: a path from the root leaves the directory behind. -/
def join (directory path : Path) : Path :=
  if path.anchor == .here then
    ⟨directory.anchor, directory.steps ++ path.steps, by
      rw [List.all_append, directory.steps_valid, path.steps_valid]; rfl⟩
  else path

def child (directory : Path) (name : String) : Path :=
  directory.join (ofText name)

def parent (path : Path) : Path :=
  ⟨path.anchor, path.steps.dropLast, by
    have valid := path.steps_valid
    rw [List.all_eq_true] at valid ⊢
    exact fun step member => valid step (List.dropLast_subset _ member)⟩

/-- The last step of a path, empty if it has none. -/
def name (path : Path) : String :=
  path.steps.getLast?.getD ""

/-- Tells whether a host can be told a path: none takes the character zero in a name. -/
def isNameable (path : Path) : Bool :=
  path.steps.all fun step => !step.toList.contains '\x00'

end Path

end DriverKit
