import DriverKit.Proofs.Disk.Listing

/-!
# Standard forms and places

The standard form of a path is made of its names alone, while a path is followed from directory to
directory. Where both come to an end they agree: paths of one standard form that lead anywhere lead
to one place. A path can have a standard form that leads somewhere and yet lead nowhere itself,
since two dots take back a name that need not be there.
-/

namespace DriverKit

namespace Disk

/-- Paths of one standard form that lead anywhere lead to one place. -/
theorem place_eq_of_standard_eq {disk : Disk} {path other : Path} {place otherPlace : Place}
    (same : path.standard disk.workingDirectory = other.standard disk.workingDirectory)
    (leads : disk.place path = .ok place) (otherLeads : disk.place other = .ok otherPlace) :
    place = otherPlace := by
  rw [eq_destination_of_place leads, eq_destination_of_place otherLeads]
  exact congrArg Path.Standard.place same

/-! ## The directory of a path -/

theorem exists_of_follow_append {disk : Disk} {step : String} {last : Place} :
    ∀ {steps : List String} {start : Place},
      disk.follow start (steps ++ [step]) = .ok last →
        ∃ place, disk.follow start steps = .ok place ∧ disk.follow place [step] = .ok last
  | [], start, followed => ⟨start, rfl, followed⟩
  | _ :: _, _, followed => by
      obtain ⟨here, short, later⟩ := follow_cons_eq_ok_iff.mp followed
      obtain ⟨place, before, after⟩ := exists_of_follow_append later
      exact ⟨place, follow_cons_eq_ok_iff.mpr ⟨here, short, before⟩, after⟩

/-- A path that leads on from another one leads through the directory of that one. -/
theorem exists_of_place_child {disk : Disk} {path : Path} {name : String} {place : Place}
    (named : isName name = true) (found : disk.place (path.child name) = .ok place) :
    ∃ directory,
      disk.place path = .ok directory ∧ disk.at? directory = some .directory ∧
        place = directory.child name := by
  simp only [isName, Bool.and_eq_true, Bool.not_eq_true', bne_iff_ne, ne_eq] at named
  obtain ⟨⟨⟨valid, notUp⟩, visible⟩, _⟩ := named
  obtain ⟨nameable, short, followed⟩ := place_eq_ok_iff.mp found
  rw [Path.isNameable_child valid visible] at nameable
  rw [Path.anchor_child valid, Path.steps_child valid] at followed
  obtain ⟨directory, before, after⟩ := exists_of_follow_append followed
  obtain ⟨here, _, last⟩ := follow_cons_eq_ok_iff.mp after
  have shorter := (Path.utf8ByteSize_text_le_child valid).trans short
  refine ⟨directory, place_eq_ok_iff.mpr ⟨nameable, shorter, before⟩, here, ?_⟩
  cases last
  simp [Place.follow, notUp]

/-- Along two paths to one directory a name leads to one place, unless the host cannot be asked for
it along the other path. -/
theorem place_child_or_overlong {disk : Disk} {path : Path} {name : String} {directory : Place}
    (named : isName name = true) (leads : disk.place path = .ok directory)
    (here : disk.at? directory = some .directory) :
    disk.place (path.child name) = .ok (directory.child name) ∨
      disk.place (path.child name) = .error .overlong := by
  by_cases short : (path.child name).text.utf8ByteSize ≤ pathLimit
  · exact Or.inl (place_child leads here named short)
  · have overlong : pathLimit < (path.child name).text.utf8ByteSize := by omega
    have parts := named
    simp only [isName, Bool.and_eq_true, Bool.not_eq_true'] at parts
    obtain ⟨nameable, _, _⟩ := place_eq_ok_iff.mp leads
    right
    simp [Disk.place, Path.isNameable_child parts.1.1.1 parts.1.2, nameable, overlong]

end Disk

/-! ## Ways round -/

namespace Path

/-- The steps into a directory and out of it again, so many times. -/
def turns (name : String) : Nat → List String
  | 0 => []
  | count + 1 => name :: ".." :: turns name count

theorem all_turns (holds : String → Bool) {name : String} (named : holds name = true)
    (up : holds ".." = true) : ∀ count, (turns name count).all holds = true
  | 0 => rfl
  | count + 1 => by
      rw [turns, List.all_cons, List.all_cons, named, up, all_turns holds named up count]
      rfl

theorem bytesOf_turns (name : String) :
    ∀ count, bytesOf (turns name count) = count * (name.utf8ByteSize + 4)
  | 0 => by simp [turns, bytesOf]
  | count + 1 => by
      have later := bytesOf_turns name count
      have up : "..".utf8ByteSize = 2 := rfl
      rw [turns, bytesOf, bytesOf, later, up, Nat.add_one_mul]
      omega

/-- A path to a name in the working directory that goes into it and out so many times before. -/
def wayRound (name : String) (valid : isStep name.toList = true) (count : Nat) : Path :=
  ⟨.here, turns name count ++ [name], by
    have up : isStep "..".toList = true := by decide
    rw [List.all_append, all_turns (isStep ·.toList) valid up count, List.all_cons, valid]
    rfl⟩

theorem bytesOf_wayRound {name : String} (valid : isStep name.toList = true) (count : Nat) :
    bytesOf (wayRound name valid count).steps
      = count * (name.utf8ByteSize + 4) + (name.utf8ByteSize + 1) := by
  rw [wayRound, bytesOf_append, bytesOf_turns, bytesOf, bytesOf]

end Path

namespace Disk

theorem follow_turns {disk : Disk} {start : Place} {name : String} (named : isName name = true)
    (here : disk.at? start = some .directory)
    (inside : disk.at? (start.child name) = some .directory) (rest : List String) :
    ∀ count, disk.follow start (Path.turns name count ++ rest) = disk.follow start rest
  | 0 => rfl
  | count + 1 => by
      have later := follow_turns named here inside rest count
      simp only [isName, Bool.and_eq_true, bne_iff_ne, ne_eq, decide_eq_true_eq] at named
      obtain ⟨⟨⟨_, notUp⟩, _⟩, short⟩ := named
      have down : start.follow name = start.child name := by simp [Place.follow, notUp]
      have back : (start.child name).follow ".." = start := Place.directory_child start name
      have nameShort : ¬ nameLimit < name.utf8ByteSize := Nat.not_lt.mpr short
      have upShort : ¬ nameLimit < "..".utf8ByteSize := by decide
      rw [Path.turns, List.cons_append, List.cons_append, follow, here]
      simp only [if_neg nameShort, down]
      rw [follow, inside]
      simp only [if_neg upShort, back, later]

/-- A way round leads to where the name itself leads, as long as the host can be asked for it. -/
theorem place_wayRound {disk : Disk} {name : String} (named : isName name = true)
    (valid : isStep name.toList = true)
    (inside : disk.at? (disk.workingDirectory.child name) = some .directory) {count : Nat}
    (short : count * (name.utf8ByteSize + 4) + name.utf8ByteSize ≤ pathLimit) :
    disk.place (Path.wayRound name valid count) = .ok (disk.workingDirectory.child name) := by
  have size : (Path.wayRound name valid count).text.utf8ByteSize + 1
      = 0 + (count * (name.utf8ByteSize + 4) + (name.utf8ByteSize + 1)) := by
    rw [Path.utf8ByteSize_text (by simp [Path.wayRound]), Path.bytesOf_wayRound valid count]
    rfl
  have top : disk.at? disk.workingDirectory = some .directory := at?_start disk .here
  have turned := follow_turns named top inside [name] count
  simp only [isName, Bool.and_eq_true, Bool.not_eq_true', bne_iff_ne, ne_eq,
    decide_eq_true_eq] at named
  obtain ⟨⟨⟨_, notUp⟩, visible⟩, nameShort⟩ := named
  have nameable : (Path.wayRound name valid count).isNameable = true := by
    have nameVisible : (!name.toList.contains '\x00') = true := by rw [visible, Bool.not_false]
    have turnsNameable := Path.all_turns (fun step => !step.toList.contains '\x00') nameVisible
      (by decide) count
    rw [Path.isNameable, Path.wayRound, List.all_append, turnsNameable, List.all_cons, nameVisible]
    rfl
  refine place_eq_ok_iff.mpr ⟨nameable, by omega, ?_⟩
  show disk.follow disk.workingDirectory (Path.turns name count ++ [name]) = _
  rw [turned]
  refine follow_cons_eq_ok_iff.mpr ⟨top, nameShort, ?_⟩
  simp [follow, Place.follow, notUp]

end Disk

end DriverKit
