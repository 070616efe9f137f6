import DriverKit.Proofs.Disk.Tree
import DriverKit.Proofs.Distinct
import DriverKit.Proofs.Path
import Mathlib.Data.List.Sort

/-!
# Listed directories

The directories that the host lists in a directory are those that are there, each of them once and
by the code points of their names. Each has a name of a single step, and its path leads to it. What
is listed depends on what is at which place of the disk, and not on the order in which the disk
keeps its entries.
-/

namespace DriverKit

namespace Disk

/-! ## The names in a directory -/

/-- A place whose last name is known is the place of that name in the directory it lies in. -/
theorem eq_child_of_getLast? {place : Place} {name : String}
    (last : place.names.getLast? = some name) : place = place.directory.child name := by
  obtain ⟨front, names⟩ := List.getLast?_eq_some_iff.mp last
  rw [Place.directory_of_names_eq_append names, Place.child, ← names]

theorem mem_above_iff {disk : Disk} {place : Place} :
    place ∈ disk.above ↔ disk.workingDirectory.isWithin place = true := by
  rw [above, List.mem_map, Place.isWithin, List.isPrefixOf_iff_prefix]
  constructor
  · rintro ⟨depth, _, rfl⟩
    exact List.take_prefix depth _
  · intro before
    refine ⟨place.names.length, List.mem_range.mpr (Nat.lt_succ_of_le before.length_le), ?_⟩
    rw [← List.prefix_iff_eq_take.mp before]

theorem mem_places_iff {disk : Disk} {place : Place} :
    place ∈ disk.above ++ disk.entries.map Prod.fst ↔ disk.at? place ≠ none := by
  rw [List.mem_append, mem_above_iff]
  cases above : disk.workingDirectory.isWithin place with
  | true => simp [at?_of_above above]
  | false => simp [at?_of_not_above above, List.lookup_eq_none_iff]

/-- The names in a directory are the names that the host allows of what is in it. -/
theorem mem_names_iff {disk : Disk} {directory : Place} {name : String} :
    name ∈ disk.names directory ↔
      isName name = true ∧ disk.at? (directory.child name) ≠ none := by
  unfold names
  rw [List.mem_mergeSort, mem_distinct, List.mem_filterMap]
  constructor
  · rintro ⟨place, member, found⟩
    split at found
    · rename_i within
      obtain ⟨last, named⟩ := Option.filter_eq_some_iff.mp found
      have isPlace : place = directory.child name := by
        rw [← beq_iff_eq.mp within]
        exact eq_child_of_getLast? last
      exact ⟨named, isPlace ▸ mem_places_iff.mp member⟩
    · cases found
  · rintro ⟨named, present⟩
    refine ⟨directory.child name, mem_places_iff.mpr present, ?_⟩
    have last : (directory.child name).names.getLast? = some name := by
      simp [Place.child]
    simp [Place.directory_child, last, named]

/-- Each name in a directory is listed once, and the names stand in the order of their code
points. -/
theorem pairwise_names (disk : Disk) (directory : Place) :
    (disk.names directory).Pairwise (· < ·) := by
  unfold names
  generalize (disk.above ++ disk.entries.map Prod.fst).filterMap _ = found
  have inOrder : ((distinct found).mergeSort (· ≤ ·)).Pairwise (· ≤ ·) := by
    have sorted := @List.pairwise_mergeSort String (fun left right => decide (left ≤ right))
      (fun first second third => by
        simpa only [decide_eq_true_eq] using String.le_trans)
      (fun first second => by
        simpa only [Bool.or_eq_true, decide_eq_true_eq] using String.le_total first second)
      (distinct found)
    exact sorted.imp of_decide_eq_true
  have once : ((distinct found).mergeSort (· ≤ ·)).Pairwise (· ≠ ·) :=
    (List.mergeSort_perm _ _).nodup_iff.mpr nodup_distinct
  refine (inOrder.and once).imp fun ⟨atMost, different⟩ => ?_
  by_contra notBefore
  exact different (String.le_antisymm atMost (String.not_lt.mp notBefore))

theorem mem_directoryNames_iff {disk : Disk} {directory : Place} {name : String} :
    name ∈ disk.directoryNames directory ↔
      isName name = true ∧ disk.at? (directory.child name) = some .directory := by
  rw [directoryNames, List.mem_filter, mem_names_iff, beq_iff_eq]
  constructor
  · rintro ⟨⟨named, _⟩, isOne⟩
    exact ⟨named, isOne⟩
  · rintro ⟨named, isOne⟩
    exact ⟨⟨named, by simp [isOne]⟩, isOne⟩

theorem pairwise_directoryNames (disk : Disk) (directory : Place) :
    (disk.directoryNames directory).Pairwise (· < ·) :=
  (pairwise_names disk directory).sublist List.filter_sublist

/-! ## Listed directories and their paths -/

theorem follow_append {disk : Disk} {place last : Place} {step : String}
    (more : disk.follow place [step] = .ok last) :
    ∀ {steps : List String} {start : Place},
      disk.follow start steps = .ok place → disk.follow start (steps ++ [step]) = .ok last
  | [], _, followed => by
      cases followed
      exact more
  | _ :: _, _, followed => by
      obtain ⟨here, short, later⟩ := follow_cons_eq_ok_iff.mp followed
      exact follow_cons_eq_ok_iff.mpr ⟨here, short, follow_append more later⟩

/-- A name within a directory leads on from the place of the directory. -/
theorem place_child {disk : Disk} {path : Path} {place : Place} {name : String}
    (found : disk.place path = .ok place) (here : disk.at? place = some .directory)
    (named : isName name = true) (short : (path.child name).text.utf8ByteSize ≤ pathLimit) :
    disk.place (path.child name) = .ok (place.child name) := by
  simp only [isName, Bool.and_eq_true, Bool.not_eq_true', bne_iff_ne, ne_eq,
    decide_eq_true_eq] at named
  obtain ⟨⟨⟨valid, notUp⟩, visible⟩, nameShort⟩ := named
  obtain ⟨nameable, _, followed⟩ := place_eq_ok_iff.mp found
  have childNameable : (path.child name).isNameable = true := by
    rw [Path.isNameable_child valid visible, nameable]
  have lastStep : disk.follow place [name] = .ok (place.child name) :=
    follow_cons_eq_ok_iff.mpr ⟨here, nameShort, by simp [follow, Place.follow, notUp]⟩
  rw [place_eq_ok_iff, Path.anchor_child valid, Path.steps_child valid]
  exact ⟨childNameable, short, follow_append lastStep followed⟩

theorem exists_of_subdirectories {disk : Disk} {path : Path} {names : List String}
    (listed : disk.subdirectories path = .ok names) :
    ∃ place, disk.place path = .ok place ∧ disk.at? place = some .directory ∧
      names = disk.directoryNames place ∧
        ∀ name ∈ disk.names place, (path.child name).text.utf8ByteSize ≤ pathLimit := by
  unfold subdirectories at listed
  split at listed
  · cases listed
  · rename_i place found
    split at listed
    · cases listed
    · cases listed
    · rename_i here
      split at listed
      · cases listed
      · simp only at listed
        split at listed
        · cases listed
        · rename_i noneOverlong
          cases listed
          refine ⟨place, found, here, rfl, fun name member => ?_⟩
          have notOverlong :=
            List.find?_eq_none.mp noneOverlong (path.child name) (List.mem_map_of_mem member)
          simpa using notOverlong

/-- A directory that is listed has a name of a single step, and it can be asked for by its path. -/
theorem isDirectory_child_of_subdirectories {disk : Disk} {path : Path} {names : List String}
    {name : String} (listed : disk.subdirectories path = .ok names) (member : name ∈ names) :
    isStep name.toList = true ∧ disk.isDirectory (path.child name) = .ok true := by
  obtain ⟨place, found, here, same, short⟩ := exists_of_subdirectories listed
  rw [same] at member
  obtain ⟨inNames, isOne⟩ := List.mem_filter.mp member
  have named := (mem_names_iff.mp inNames).1
  have leads := place_child found here named (short name inNames)
  constructor
  · simp only [isName, Bool.and_eq_true] at named
    exact named.1.1.1
  · rw [isDirectory_of_entry (entry_of_place leads), beq_iff_eq.mp isOne]
    rfl

/-! ## Subdirectories -/

/-- A directory in the directory that a path leads to. -/
def HasSubdirectory (disk : Disk) (path : Path) (name : String) : Prop :=
  isName name = true ∧
    ∃ place, disk.place path = .ok place ∧ disk.at? place = some .directory ∧
      disk.at? (place.child name) = some .directory

/-- A listing holds all subdirectories and nothing else. -/
theorem mem_subdirectories_iff {disk : Disk} {path : Path} {names : List String}
    (listed : disk.subdirectories path = .ok names) {name : String} :
    name ∈ names ↔ disk.HasSubdirectory path name := by
  obtain ⟨place, found, here, rfl, _⟩ := exists_of_subdirectories listed
  rw [mem_directoryNames_iff]
  constructor
  · rintro ⟨named, isOne⟩
    exact ⟨named, place, found, here, isOne⟩
  · rintro ⟨named, other, otherFound, _, isOne⟩
    have samePlace : place = other := Except.ok.inj (found.symm.trans otherFound)
    exact ⟨named, samePlace ▸ isOne⟩

theorem pairwise_subdirectories {disk : Disk} {path : Path} {names : List String}
    (listed : disk.subdirectories path = .ok names) : names.Pairwise (· < ·) := by
  obtain ⟨place, _, _, rfl, _⟩ := exists_of_subdirectories listed
  exact pairwise_directoryNames disk place

theorem isDirectory_of_hasSubdirectory {disk : Disk} {path : Path} {name : String}
    (within : disk.HasSubdirectory path name) : disk.isDirectory path = .ok true := by
  obtain ⟨_, place, found, here, _⟩ := within
  rw [isDirectory_of_entry (entry_of_place found), here]
  rfl

theorem isDirectory_of_subdirectories {disk : Disk} {path : Path} {names : List String}
    (listed : disk.subdirectories path = .ok names) : disk.isDirectory path = .ok true := by
  obtain ⟨place, found, here, _⟩ := exists_of_subdirectories listed
  rw [isDirectory_of_entry (entry_of_place found), here]
  rfl

/-- Listings of the same directories are the same. -/
theorem eq_of_subdirectories {disk other : Disk} {path : Path} {names otherNames : List String}
    (listed : disk.subdirectories path = .ok names)
    (otherListed : other.subdirectories path = .ok otherNames)
    (same : ∀ name, disk.HasSubdirectory path name ↔ other.HasSubdirectory path name) :
    names = otherNames := by
  apply List.Pairwise.eq_of_mem_iff (pairwise_subdirectories listed)
    (pairwise_subdirectories otherListed)
  intro name
  rw [mem_subdirectories_iff listed, mem_subdirectories_iff otherListed, same]

/-! ## Disks that hold the same -/

/-- Two disks hold the same things at the same places, have the same working directory, and refuse
to list the same directories. In what order they keep their entries does not matter. -/
structure HoldsSame (disk other : Disk) : Prop where
  workingDirectory : disk.workingDirectory = other.workingDirectory
  entries : ∀ place, disk.at? place = other.at? place
  refusals : ∀ text, disk.refusals.lookup text = other.refusals.lookup text

/-- Of entries with different keys the order does not matter. -/
theorem lookup_of_perm {α β : Type} [BEq α] [LawfulBEq α] {entries others : List (α × β)}
    (permuted : entries.Perm others) (key : α) :
    (entries.map Prod.fst).Nodup → entries.lookup key = others.lookup key := by
  induction permuted with
  | nil => exact fun _ => rfl
  | cons entry _ inductionHypothesis =>
      obtain ⟨entryKey, value⟩ := entry
      intro different
      have others := inductionHypothesis (List.nodup_cons.mp different).2
      rw [List.lookup_cons, List.lookup_cons, others]
  | swap first second rest =>
      obtain ⟨firstKey, firstValue⟩ := first
      obtain ⟨secondKey, secondValue⟩ := second
      intro different
      simp only [List.map_cons, List.nodup_cons, List.mem_cons, not_or] at different
      simp only [List.lookup_cons]
      by_cases isFirst : key = firstKey
      · have notSecond : (key == secondKey) = false :=
          beq_eq_false_iff_ne.mpr fun isSecond => different.1.1 (isSecond.symm.trans isFirst)
        rw [notSecond]
      · rw [beq_eq_false_iff_ne.mpr isFirst]
  | trans permuted _ first second =>
      intro different
      have alsoDifferent := (permuted.map Prod.fst).nodup_iff.mp different
      exact (first different).trans (second alsoDifferent)

theorem holdsSame_of_perm {disk other : Disk} (permuted : disk.entries.Perm other.entries)
    (different : (disk.entries.map Prod.fst).Nodup)
    (workingDirectory : disk.workingDirectory = other.workingDirectory)
    (refusals : disk.refusals = other.refusals) : disk.HoldsSame other where
  workingDirectory := workingDirectory
  entries := by
    intro place
    rw [at?, at?, lookup_of_perm permuted place different, workingDirectory]
  refusals := by
    intro text
    rw [refusals]

theorem HoldsSame.follow {disk other : Disk} (same : disk.HoldsSame other) :
    ∀ {steps : List String} {start : Place},
      disk.follow start steps = other.follow start steps
  | [], _ => rfl
  | step :: rest, start => by
      rw [Disk.follow, Disk.follow, same.entries, same.follow]

theorem HoldsSame.place {disk other : Disk} (same : disk.HoldsSame other) (path : Path) :
    disk.place path = other.place path := by
  rw [Disk.place, Disk.place, same.workingDirectory, same.follow]

theorem HoldsSame.isDirectory {disk other : Disk} (same : disk.HoldsSame other) (path : Path) :
    disk.isDirectory path = other.isDirectory path := by
  simp only [Disk.isDirectory, entry?, same.place, same.entries]

theorem HoldsSame.names {disk other : Disk} (same : disk.HoldsSame other) (directory : Place) :
    disk.names directory = other.names directory := by
  apply List.Pairwise.eq_of_mem_iff (pairwise_names disk directory)
    (pairwise_names other directory)
  intro name
  rw [mem_names_iff, mem_names_iff, same.entries]

theorem HoldsSame.subdirectories {disk other : Disk} (same : disk.HoldsSame other)
    (path : Path) : disk.subdirectories path = other.subdirectories path := by
  simp only [Disk.subdirectories, same.place, same.entries, same.refusals, same.names,
    directoryNames]

end Disk

end DriverKit
