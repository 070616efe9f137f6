import DriverKit.Proofs.Disk.Change
import DriverKit.Proofs.Disk.Listing

/-!
# Where directories can be made

A directory is there or can be made, with those that it lies in, exactly when nothing is in its way:
the host can be told its path, neither the path nor a name in it is too long, and no file is at a
place that the path leads to or through. Directories that are not there are in no one's way, since
each of them is made before it is needed.
-/

namespace DriverKit.Disk

/-- Nothing keeps a directory from being there or being made. -/
structure Admits (disk : Disk) (path : Path) : Prop where
  nameable : path.isNameable = true
  short : path.text.utf8ByteSize ≤ pathLimit
  shortSteps : ∀ step ∈ path.steps, step.utf8ByteSize ≤ nameLimit
  clear : ∀ front, front <+: path.steps → ∀ bytes,
    disk.at? (front.foldl Place.follow (.start disk.workingDirectory path.anchor))
      ≠ some (.file bytes)

/-! ## Following clear ways -/

/-- A way on which no name is too long and no file stands leads to its end, unless a directory is
missing. -/
theorem follow_cases {disk : Disk} :
    ∀ {steps : List String} {start : Place},
      (∀ step ∈ steps, step.utf8ByteSize ≤ nameLimit) →
        (∀ front, front <+: steps → ∀ bytes,
          disk.at? (front.foldl Place.follow start) ≠ some (.file bytes)) →
          disk.follow start steps = .ok (steps.foldl Place.follow start) ∨
            disk.follow start steps = .error .nothing
  | [], _, _, _ => Or.inl rfl
  | step :: rest, start, short, clear => by
      obtain ⟨stepShort, restShort⟩ := List.forall_mem_cons.mp short
      have notOverlong : ¬ nameLimit < step.utf8ByteSize := Nat.not_lt.mpr stepShort
      have restClear : ∀ front, front <+: rest → ∀ bytes,
          disk.at? (front.foldl Place.follow (start.follow step)) ≠ some (.file bytes) :=
        fun front before bytes =>
          clear (step :: front) ((List.prefix_cons_inj step).mpr before) bytes
      rw [follow]
      cases here : disk.at? start with
      | none => exact Or.inr rfl
      | some entry =>
          cases entry with
          | file bytes => exact absurd here (clear [] List.nil_prefix bytes)
          | directory =>
              simp only [if_neg notOverlong]
              exact follow_cases restShort restClear

theorem short_of_follow {disk : Disk} :
    ∀ {steps : List String} {start place : Place}, disk.follow start steps = .ok place →
      ∀ step ∈ steps, step.utf8ByteSize ≤ nameLimit
  | [], _, _, _ => fun _ member => absurd member List.not_mem_nil
  | _ :: _, _, _, followed => by
      obtain ⟨_, short, later⟩ := follow_cons_eq_ok_iff.mp followed
      exact List.forall_mem_cons.mpr ⟨short, short_of_follow later⟩

/-- On the way to a directory there are directories only. -/
theorem directory_of_isPrefix {disk : Disk} :
    ∀ {steps front : List String} {start place : Place}, disk.follow start steps = .ok place →
      disk.at? place = some .directory → front <+: steps →
        disk.at? (front.foldl Place.follow start) = some .directory
  | [], front, start, place, followed, here, before => by
      cases followed
      rw [List.prefix_nil.mp before]
      exact here
  | step :: rest, [], _, _, followed, _, _ => (follow_cons_eq_ok_iff.mp followed).1
  | step :: rest, first :: others, start, place, followed, here, before => by
      obtain ⟨_, _, later⟩ := follow_cons_eq_ok_iff.mp followed
      obtain ⟨same, inRest⟩ := List.cons_prefix_cons.mp before
      rw [List.foldl_cons, same]
      exact directory_of_isPrefix later here inRest

/-! ## What admits a directory -/

theorem admits_of_isDirectory {disk : Disk} {path : Path}
    (isThere : disk.isDirectory path = .ok true) : disk.Admits path := by
  obtain ⟨place, leads, here⟩ := isDirectory_eq_true_iff.mp isThere
  obtain ⟨nameable, short, followed⟩ := place_eq_ok_iff.mp leads
  refine ⟨nameable, short, short_of_follow followed, fun front before bytes isFile => ?_⟩
  rw [directory_of_isPrefix followed here before] at isFile
  cases isFile

/-- Whether a disk admits a directory does not hang on the directories that it has. -/
theorem Altered.admits_iff {disk after : Disk} {directories : List Path}
    (altered : disk.Altered after directories []) {path : Path} :
    after.Admits path ↔ disk.Admits path := by
  constructor
  · intro admits
    refine ⟨admits.nameable, admits.short, admits.shortSteps, fun front before bytes isFile => ?_⟩
    rw [← altered.workingDirectory] at isFile
    exact admits.clear front before bytes (altered.at?_eq_file_iff.mpr isFile)
  · intro admits
    refine ⟨admits.nameable, admits.short, admits.shortSteps, fun front before bytes isFile => ?_⟩
    rw [altered.workingDirectory] at isFile
    exact admits.clear front before bytes (altered.at?_eq_file_iff.mp isFile)

namespace Admits

variable {disk : Disk} {path : Path}

theorem parent (admits : disk.Admits path) : disk.Admits path.parent where
  nameable := Path.isNameable_parent admits.nameable
  short := Nat.le_trans (Path.utf8ByteSize_text_parent_le path) admits.short
  shortSteps := fun step member => admits.shortSteps step (List.dropLast_subset _ member)
  clear := fun front before => admits.clear front (before.trans <| List.dropLast_prefix path.steps)

theorem place_cases (admits : disk.Admits path) :
    disk.place path = .ok (disk.destination path) ∨ disk.place path = .error .nothing := by
  have notOverlong : ¬ pathLimit < path.text.utf8ByteSize := Nat.not_lt.mpr admits.short
  simp only [Disk.place, admits.nameable, notOverlong, Bool.not_true, Bool.false_eq_true, if_false]
  exact follow_cases admits.shortSteps admits.clear

theorem place_of_not_lacksParent (admits : disk.Admits path)
    (notLacking : disk.lacksParent path = false) :
    disk.place path = .ok (disk.destination path) := by
  rcases admits.place_cases with leads | missing
  · exact leads
  · simp [lacksParent, makeDirectory, missing, Obstacle.fault] at notLacking

theorem place_of_parent (admits : disk.Admits path)
    (isThere : disk.isDirectory path.parent = .ok true) :
    disk.place path = .ok (disk.destination path) := by
  obtain ⟨place, leads, here⟩ := isDirectory_eq_true_iff.mp isThere
  obtain ⟨_, _, followed⟩ := place_eq_ok_iff.mp leads
  have found : ∃ last,
      disk.follow (.start disk.workingDirectory path.anchor) path.steps = .ok last := by
    cases steps : path.steps using List.reverseRecOn with
    | nil => exact ⟨_, rfl⟩
    | append_singleton front last =>
        have short := admits.shortSteps last (by simp [steps])
        have again : disk.follow (.start disk.workingDirectory path.anchor) front = .ok place := by
          simpa [Path.parent, steps] using followed
        have lastStep : disk.follow place [last] = .ok (place.follow last) :=
          follow_cons_eq_ok_iff.mpr ⟨here, short, rfl⟩
        exact ⟨_, follow_append lastStep again⟩
  obtain ⟨last, found⟩ := found
  have reached := place_eq_ok_iff.mpr ⟨admits.nameable, admits.short, found⟩
  rw [reached, eq_destination_of_place reached]

end Admits

/-! ## One directory after the other -/

/-- Where directories are made, there is the first of them before the others are made. -/
theorem exists_of_makeEach_cons {disk : Disk} (tree : disk.IsTree) {path : Path} {rest : List Path}
    (success : (disk.makeEach none (path :: rest)).1 = .ok ()) :
    ∃ middle : Disk, middle.IsTree ∧ middle.isDirectory path = .ok true ∧
      ∀ more, disk.makeEach none (path :: more) = middle.makeEach none more := by
  cases attempt : disk.makeDirectory path with
  | ok made =>
      obtain ⟨place, leads, absent, rfl⟩ := exists_of_makeDirectory attempt
      have notDirectory : disk.at? place ≠ some .directory := by simp [absent]
      have keeps : disk.KeepsDirectories (disk.put place .directory) :=
        keepsDirectories_put tree notDirectory
      have here : (disk.put place .directory).at? place = some .directory := by
        rw [at?_put tree notDirectory, if_pos rfl]
      have isThere := isDirectory_eq_true_iff.mpr
        ⟨place, place_of_keepsDirectories keeps leads, here⟩
      refine ⟨_, (altered_makeDirectory tree attempt).1, isThere, fun more => ?_⟩
      simp only [makeEach, attempt, Option.map_none]
  | error fault =>
      simp only [makeEach, attempt] at success
      split at success
      · rename_i isThere
        refine ⟨disk, tree, isThere, fun more => ?_⟩
        simp only [makeEach, attempt, isThere]
      · cases success
      · cases success

theorem makeEach_append {rest : List Path} :
    ∀ {front : List Path} {disk : Disk}, disk.IsTree → (disk.makeEach none front).1 = .ok () →
      disk.makeEach none (front ++ rest) = (disk.makeEach none front).2.makeEach none rest
  | [], _, _, _ => rfl
  | path :: others, disk, tree, success => by
      obtain ⟨middle, middleTree, _, step⟩ := exists_of_makeEach_cons tree success
      rw [step] at success
      rw [List.cons_append, step, step]
      exact makeEach_append middleTree success

/-- Where making directories succeeds, each of them is there. -/
theorem isDirectory_of_makeEach :
    ∀ {paths : List Path} {disk : Disk}, disk.IsTree → (disk.makeEach none paths).1 = .ok () →
      ∀ path ∈ paths, (disk.makeEach none paths).2.isDirectory path = .ok true
  | [], _, _, _ => fun _ member => absurd member List.not_mem_nil
  | first :: rest, disk, tree, success => by
      obtain ⟨middle, middleTree, firstThere, step⟩ := exists_of_makeEach_cons tree success
      rw [step] at success ⊢
      have keeps : middle.KeepsDirectories (middle.makeEach none rest).2 :=
        (altered_makeEach middleTree).2.keepsDirectories
      exact List.forall_mem_cons.mpr
        ⟨isDirectory_of_keepsDirectories keeps firstThere,
          isDirectory_of_makeEach middleTree success⟩

/-- Where the way to a directory is there, it is made, unless it is there as well. -/
theorem Admits.makeEach_singleton {disk : Disk} {path : Path} (admits : disk.Admits path)
    (leads : disk.place path = .ok (disk.destination path)) :
    (disk.makeEach none [path]).1 = .ok () := by
  cases here : disk.at? (disk.destination path) with
  | none => simp [makeEach, makeDirectory, leads, here]
  | some entry =>
      cases entry with
      | file bytes => exact absurd here (admits.clear path.steps (List.prefix_refl _) bytes)
      | directory =>
          have isThere := isDirectory_eq_true_iff.mpr ⟨disk.destination path, leads, here⟩
          simp [makeEach, makeDirectory, leads, here, isThere]

/-- The directories that are made for a path, as far as so many levels up, the outermost first. -/
def outward (disk : Disk) (path : Path) (levels : Nat) : List Path :=
  let all := lineage path levels
  (all.take ((all.takeWhile disk.lacksParent).length + 1)).reverse

theorem outward_succ (disk : Disk) (path : Path) (levels : Nat) :
    disk.outward path (levels + 1) =
      if disk.lacksParent path then disk.outward path.parent levels ++ [path] else [path] := by
  simp only [outward, lineage, List.takeWhile_cons]
  cases disk.lacksParent path with
  | true => simp
  | false => simp

theorem outward_zero (disk : Disk) (path : Path) : disk.outward path 0 = [path] := by
  simp only [outward, lineage, List.takeWhile_cons]
  cases disk.lacksParent path with
  | true => simp
  | false => simp

theorem mem_outward (disk : Disk) (path : Path) : ∀ levels, path ∈ disk.outward path levels
  | 0 => by simp [outward_zero]
  | levels + 1 => by
      rw [outward_succ]
      split
      · simp
      · simp

/-- Directories that nothing keeps from being made are made, those before them first. -/
theorem Admits.makeEach_outward {disk : Disk} (tree : disk.IsTree) :
    ∀ {levels : Nat} {path : Path}, disk.Admits path → path.steps.length = levels →
      (disk.makeEach none (disk.outward path levels)).1 = .ok ()
  | 0, path, admits, count => by
      have leads : disk.place path = .ok (disk.destination path) := by
        have noSteps := List.eq_nil_of_length_eq_zero count
        refine place_eq_ok_iff.mpr ⟨admits.nameable, admits.short, ?_⟩
        rw [Disk.destination, Path.destination, noSteps]
        rfl
      rw [outward_zero]
      exact admits.makeEach_singleton leads
  | levels + 1, path, admits, count => by
      rw [outward_succ]
      cases lacking : disk.lacksParent path with
      | false => exact admits.makeEach_singleton (admits.place_of_not_lacksParent lacking)
      | true =>
          have parentCount : path.parent.steps.length = levels := by simp [Path.parent, count]
          have success := admits.parent.makeEach_outward tree parentCount
          have parentThere := isDirectory_of_makeEach tree success path.parent
            (mem_outward disk path.parent levels)
          obtain ⟨_, altered⟩ : _ ∧ disk.Altered
              (disk.makeEach none (disk.outward path.parent levels)).2 _ [] := altered_makeEach tree
          have stillAdmits := altered.admits_iff.mpr admits
          rw [if_pos rfl, makeEach_append tree success]
          exact stillAdmits.makeEach_singleton (stillAdmits.place_of_parent parentThere)

theorem makeDirectories_of_isNameable {disk : Disk} {path : Path}
    (nameable : path.isNameable = true) :
    disk.makeDirectories path none =
      ((disk.makeEach none (disk.outward path path.steps.length)).1.mapError .host,
        (disk.makeEach none (disk.outward path path.steps.length)).2) := by
  simp only [makeDirectories, nameable, Bool.not_true, Bool.false_eq_true, if_false]
  rfl

theorem isDirectory_of_makeDirectories {disk : Disk} (tree : disk.IsTree) {path : Path}
    (success : (disk.makeDirectories path none).1 = .ok ()) :
    (disk.makeDirectories path none).2.isDirectory path = .ok true := by
  cases nameable : path.isNameable with
  | false => simp [makeDirectories, nameable] at success
  | true =>
      rw [makeDirectories_of_isNameable nameable] at success ⊢
      exact isDirectory_of_makeEach tree (mapError_eq_ok_iff.mp success) path
        (mem_outward disk path path.steps.length)

/-- Making a directory, with those that it lies in, succeeds exactly where nothing keeps it from
being there. -/
theorem makeDirectories_eq_ok_iff {disk : Disk} (tree : disk.IsTree) {path : Path} :
    (disk.makeDirectories path none).1 = .ok () ↔ disk.Admits path := by
  constructor
  · intro success
    have altered := (altered_makeDirectories tree path none).2
    have isThere := isDirectory_of_makeDirectories tree success
    exact altered.admits_iff.mp (admits_of_isDirectory isThere)
  · intro admits
    rw [makeDirectories_of_isNameable admits.nameable]
    exact mapError_eq_ok_iff.mpr (admits.makeEach_outward tree rfl)

end DriverKit.Disk
