import DriverKit.Proofs.Disk.Listing
import DriverKit.Proofs.Disk.Replacement
import DriverKit.Proofs.Disk.Standard

/-!
# Files that are written again

A file that is put in place is no directory, so whoever asks for directories gets the same answers
as before. A listing is the same as well, unless the host cannot be asked for the file along the
path that is listed. To replace the file again by the same bytes changes nothing at all.
-/

namespace DriverKit.Disk

/-! ## Disks with the same directories -/

structure SameDirectories (disk other : Disk) : Prop where
  workingDirectory : other.workingDirectory = disk.workingDirectory
  directories : ∀ place, disk.at? place = some .directory ↔ other.at? place = some .directory

namespace SameDirectories

variable {disk other : Disk}

theorem follow_eq_overlong_iff (same : disk.SameDirectories other) :
    ∀ {steps : List String} {start : Place},
      disk.follow start steps = .error .overlong ↔ other.follow start steps = .error .overlong
  | [], start => by simp [follow]
  | step :: rest, start => by
      by_cases here : disk.at? start = some .directory
      · have otherHere := (same.directories start).mp here
        simp only [follow, here, otherHere]
        split
        · exact Iff.rfl
        · exact same.follow_eq_overlong_iff
      · have notOverlong : ∀ {stopping : Disk}, stopping.at? start ≠ some .directory →
            stopping.follow start (step :: rest) ≠ .error .overlong := by
          intro stopping notDirectory stopped
          unfold follow at stopped
          split at stopped
          · contradiction
          · cases stopped
          · cases stopped
        have otherNotHere := fun otherHere => here ((same.directories start).mpr otherHere)
        exact iff_of_false (notOverlong here) (notOverlong otherNotHere)

theorem place_eq_overlong_iff (same : disk.SameDirectories other) {path : Path} :
    disk.place path = .error .overlong ↔ other.place path = .error .overlong := by
  unfold Disk.place
  split
  · exact Iff.rfl
  · split
    · exact Iff.rfl
    · rw [same.workingDirectory]
      exact same.follow_eq_overlong_iff

theorem keeps (same : disk.SameDirectories other) : disk.KeepsDirectories other :=
  ⟨same.workingDirectory, fun place => (same.directories place).mp⟩

theorem symm (same : disk.SameDirectories other) : other.SameDirectories disk :=
  ⟨same.workingDirectory.symm, fun place => (same.directories place).symm⟩

theorem place_eq_ok_iff (same : disk.SameDirectories other) {path : Path} {place : Place} :
    disk.place path = .ok place ↔ other.place path = .ok place :=
  ⟨place_of_keepsDirectories same.keeps, place_of_keepsDirectories same.symm.keeps⟩

/-- Hosts with the same directories answer every question for a directory in the same way. -/
theorem isDirectory (same : disk.SameDirectories other) (path : Path) :
    disk.isDirectory path = other.isDirectory path := by
  have sameTrue : disk.isDirectory path = .ok true ↔ other.isDirectory path = .ok true := by
    rw [isDirectory_eq_true_iff, isDirectory_eq_true_iff]
    exact exists_congr fun place => and_congr same.place_eq_ok_iff (same.directories place)
  have sameError : ∀ fault,
      disk.isDirectory path = .error fault ↔ other.isDirectory path = .error fault := by
    intro fault
    rw [isDirectory_eq_error_iff, isDirectory_eq_error_iff, same.place_eq_overlong_iff]
  cases asked : disk.isDirectory path with
  | error fault => exact ((sameError fault).mp asked).symm
  | ok isThere =>
      cases otherAsked : other.isDirectory path with
      | error fault => exact absurd ((sameError fault).mpr otherAsked) (by simp [asked])
      | ok otherIsThere =>
          rw [asked, otherAsked, Except.ok.injEq, Except.ok.injEq] at sameTrue
          exact congrArg Except.ok (Bool.eq_iff_iff.mpr sameTrue)

theorem directoryNames (same : disk.SameDirectories other) (directory : Place) :
    disk.directoryNames directory = other.directoryNames directory := by
  apply List.Pairwise.eq_of_mem_iff (pairwise_directoryNames disk directory)
    (pairwise_directoryNames other directory)
  intro name
  rw [mem_directoryNames_iff, mem_directoryNames_iff, same.directories]

end SameDirectories

/-! ## Listings -/

theorem subdirectories_eq_ok_iff {disk : Disk} {path : Path} {names : List String} :
    disk.subdirectories path = .ok names ↔
      ∃ place, disk.place path = .ok place ∧ disk.at? place = some .directory ∧
        disk.refusals.lookup path.text = none ∧
        (∀ name ∈ disk.names place, (path.child name).text.utf8ByteSize ≤ pathLimit) ∧
        names = disk.directoryNames place := by
  constructor
  · intro listed
    obtain ⟨place, leads, here, isNames, short⟩ := exists_of_subdirectories listed
    refine ⟨place, leads, here, ?_, short, isNames⟩
    cases refused : disk.refusals.lookup path.text with
    | none => rfl
    | some text => simp [subdirectories, leads, here, refused] at listed
  · rintro ⟨place, leads, here, notRefused, short, rfl⟩
    have noneOverlong : ((disk.names place).map path.child).find?
        (fun inner => decide (pathLimit < inner.text.utf8ByteSize)) = none := by
      rw [List.find?_eq_none]
      intro inner member
      obtain ⟨name, inNames, rfl⟩ := List.mem_map.mp member
      simpa using short name inNames
    simp only [subdirectories, leads, here, notRefused, noneOverlong]

section

variable {disk : Disk} {directory : Place} {name : String} {path : Path} {names : List String}
  {bytes : ByteArray}

theorem sameDirectories_put_file (tree : disk.IsTree) {place : Place}
    (notDirectory : disk.at? place ≠ some .directory) (bytes : ByteArray) :
    disk.SameDirectories (disk.put place (.file bytes)) := by
  refine ⟨rfl, fun other => ?_⟩
  rw [at?_put tree notDirectory]
  by_cases same : other = place
  · rw [if_pos same, same]
    exact iff_of_false notDirectory (by simp)
  · rw [if_neg same]

theorem mem_names_put_file (tree : disk.IsTree)
    (notDirectory : disk.at? (directory.child name) ≠ some .directory) {other : Place}
    {otherName : String}
    (member : otherName ∈ (disk.put (directory.child name) (.file bytes)).names other) :
    otherName ∈ disk.names other ∨ other = directory ∧ otherName = name := by
  obtain ⟨named, present⟩ := mem_names_iff.mp member
  rw [at?_put tree notDirectory] at present
  by_cases isFile : other.child otherName = directory.child name
  · exact Or.inr (Place.child_inj.mp isFile)
  · rw [if_neg isFile] at present
    exact Or.inl (mem_names_iff.mpr ⟨named, present⟩)

/-- A new file does not show in a listing if the host can be asked for it along the path. -/
theorem subdirectories_put_file (tree : disk.IsTree)
    (notDirectory : disk.at? (directory.child name) ≠ some .directory)
    (listed : disk.subdirectories path = .ok names)
    (fits : disk.place path = .ok directory → (path.child name).text.utf8ByteSize ≤ pathLimit) :
    (disk.put (directory.child name) (.file bytes)).subdirectories path = .ok names := by
  have same := sameDirectories_put_file tree notDirectory bytes
  obtain ⟨place, leads, here, notRefused, short, isNames⟩ := subdirectories_eq_ok_iff.mp listed
  refine subdirectories_eq_ok_iff.mpr
    ⟨place, same.place_eq_ok_iff.mp leads, (same.directories place).mp here, notRefused, ?_, ?_⟩
  · intro other member
    rcases mem_names_put_file tree notDirectory member with before | ⟨isDirectory, isName⟩
    · exact short other before
    · rw [isName]
      exact fits (isDirectory ▸ leads)
  · rw [isNames, same.directoryNames]

/-- A new file keeps a directory from being listed if the host cannot be asked for the file. -/
theorem subdirectories_put_file_overlong (tree : disk.IsTree)
    (notDirectory : disk.at? (directory.child name) ≠ some .directory) (named : isName name = true)
    (leads : disk.place path = .ok directory)
    (overlong : pathLimit < (path.child name).text.utf8ByteSize) :
    (disk.put (directory.child name) (.file bytes)).subdirectories path ≠ .ok names := by
  have same := sameDirectories_put_file tree notDirectory bytes
  intro listed
  obtain ⟨place, found, _, _, short⟩ := exists_of_subdirectories listed
  have samePlace : place = directory :=
    Except.ok.inj (found.symm.trans (same.place_eq_ok_iff.mp leads))
  subst samePlace
  have inNames : name ∈ (disk.put (place.child name) (.file bytes)).names place := by
    rw [mem_names_iff, at?_put tree notDirectory, if_pos rfl]
    exact ⟨named, by simp⟩
  have atMost := short name inNames
  omega

end

/-! ## Replacing a file twice -/

theorem put_put (disk : Disk) (place : Place) (entry : Entry) :
    (disk.put place entry).put place entry = disk.put place entry := by
  have within : place.isWithin place = true := Place.isWithin_iff.mpr ⟨[], by simp⟩
  simp [put, within]

/-- To make a directory that is there does nothing, even if the host refuses to make it. -/
theorem makeDirectories_of_isDirectory {disk : Disk} {path : Path}
    (isThere : disk.isDirectory path = .ok true) (failing : Option (Nat × HostFault)) :
    disk.makeDirectories path failing = (.ok (), disk) := by
  obtain ⟨place, leads, here⟩ := isDirectory_eq_true_iff.mp isThere
  have nameable := (place_eq_ok_iff.mp leads).1
  have present : disk.makeDirectory path = .error (.present path.text) := by
    simp only [makeDirectory, leads, here]
  have notLacking : disk.lacksParent path = false := by
    simp only [lacksParent, present]
  have onlyOne : disk.toBeMade path = [path] := by
    unfold toBeMade
    cases path.steps.length with
    | zero => simp [lineage, notLacking]
    | succ levels => simp [lineage, notLacking]
  have madeNothing : disk.makeEach failing [path] = (.ok (), disk) := by
    rcases failing with _ | ⟨count, fault⟩
    · simp [makeEach, present, isThere]
    · cases count with
      | zero => simp [makeEach, isThere]
      | succ more => simp [makeEach, present, isThere]
  simp only [makeDirectories, nameable, onlyOne, madeNothing]
  rfl

/-- The host refuses nothing that the success of a replacement depends on. -/
structure ReplacementFaults.Permits (faults : ReplacementFaults) : Prop where
  makeTemporary : faults.makeTemporary = Option.none
  writeTemporary : faults.writeTemporary = Option.none
  moveTemporary : faults.moveTemporary = Option.none

/-- What a replacement does in a directory that is there. -/
theorem exists_of_replace {disk : Disk} {path : Path} {bytes : ByteArray}
    {faults : ReplacementFaults} (isThere : disk.isDirectory path.parent = .ok true)
    (success : (disk.replace path (.ok bytes) faults).1.outcome = .ok ()) :
    ∃ place, disk.temporaryPlace path = .ok place ∧
      disk.moveTo path place bytes = .ok (disk.put place (.file bytes)) ∧
      disk.replace path (.ok bytes) faults = (.done (), disk.put place (.file bytes)) := by
  unfold replace at success ⊢
  simp only [makeDirectories_of_isDirectory isThere, ok_bind] at success ⊢
  split at success
  · cases success
  · rename_i place begun
    split at success
    · rename_i changed finished
      obtain ⟨_, _, allowed⟩ := bind_eq_ok_iff.mp begun
      obtain ⟨_, _, afterWrite⟩ := bind_eq_ok_iff.mp finished
      obtain ⟨_, _, afterMove⟩ := bind_eq_ok_iff.mp afterWrite
      have moved := mapError_eq_ok_iff.mp afterMove
      obtain ⟨_, rfl⟩ := notDirectory_of_moveTo moved
      exact ⟨place, allowed, moved, rfl⟩
    · split at success
      · cases success
      · rw [Traced.outcome_bind] at success
        cases success

theorem replace_of_permits {disk changed : Disk} {path : Path} {place : Place} {bytes : ByteArray}
    {faults : ReplacementFaults} (isThere : disk.isDirectory path.parent = .ok true)
    (allowed : disk.temporaryPlace path = .ok place)
    (moved : disk.moveTo path place bytes = .ok changed) (permits : faults.Permits) :
    disk.replace path (.ok bytes) faults = (.done (), changed) := by
  unfold replace
  simp only [makeDirectories_of_isDirectory isThere, permits.makeTemporary,
    permits.writeTemporary, permits.moveTemporary, refuseIf, ok_bind, allowed, moved]
  rfl

theorem temporaryPlace_eq_ok_iff {disk : Disk} {path : Path} {place : Place} :
    disk.temporaryPlace path = .ok place ↔
      path.name.utf8ByteSize + temporaryExcess ≤ nameLimit ∧ disk.place path = .ok place := by
  constructor
  · intro allowed
    refine ⟨?_, place_of_temporaryPlace allowed⟩
    unfold temporaryPlace at allowed
    split at allowed
    · cases allowed
    · split at allowed
      · cases allowed
      · omega
  · rintro ⟨short, leads⟩
    have notOverlong : ¬ nameLimit < path.name.utf8ByteSize + temporaryExcess := by omega
    have nameable := (place_eq_ok_iff.mp leads).1
    simp only [temporaryPlace, nameable, notOverlong, leads, Bool.not_true, Bool.false_eq_true,
      if_false]
    rfl

theorem temporaryPlace_of_keepsDirectories {before after : Disk}
    (keeps : before.KeepsDirectories after) {path : Path} {place : Place}
    (allowed : before.temporaryPlace path = .ok place) :
    after.temporaryPlace path = .ok place := by
  obtain ⟨short, leads⟩ := temporaryPlace_eq_ok_iff.mp allowed
  exact temporaryPlace_eq_ok_iff.mpr ⟨short, place_of_keepsDirectories keeps leads⟩

theorem moveTo_put_file {disk changed : Disk} (tree : disk.IsTree) {path : Path} {place : Place}
    {bytes : ByteArray} (moved : disk.moveTo path place bytes = .ok changed) :
    (disk.put place (.file bytes)).moveTo path place bytes
      = .ok (disk.put place (.file bytes)) := by
  obtain ⟨notDirectory, _⟩ := notDirectory_of_moveTo moved
  have isFile : (disk.put place (.file bytes)).at? place = some (.file bytes) := by
    rw [at?_put tree notDirectory, if_pos rfl]
  unfold moveTo at moved ⊢
  split at moved
  · cases moved
  · rename_i named
    rw [if_neg named, isFile, put_put]

/-- A file that has been replaced can be replaced again by the same bytes, and that does nothing. -/
theorem replace_again {disk : Disk} (tree : disk.IsTree) {path : Path} {bytes : ByteArray}
    {faults again : ReplacementFaults} (isThere : disk.isDirectory path.parent = .ok true)
    (success : (disk.replace path (.ok bytes) faults).1.outcome = .ok ())
    (permits : again.Permits) :
    (disk.replace path (.ok bytes) faults).2.replace path (.ok bytes) again
      = disk.replace path (.ok bytes) faults := by
  obtain ⟨place, allowed, moved, replaced⟩ := exists_of_replace isThere success
  obtain ⟨notDirectory, _⟩ := notDirectory_of_moveTo moved
  have same := sameDirectories_put_file tree notDirectory bytes
  have stillThere := (same.isDirectory path.parent).symm.trans isThere
  have stillAllowed := temporaryPlace_of_keepsDirectories same.keeps allowed
  rw [replaced, replace_of_permits stillThere stillAllowed (moveTo_put_file tree moved) permits]

end DriverKit.Disk
