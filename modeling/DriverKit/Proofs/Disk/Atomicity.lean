import DriverKit.Proofs.Disk.Replacement
import DriverKit.Text.Encoding

/-!
# Replacements that fail on the way

A replacement goes through its steps until one of them fails, and that step decides what it fails
with, also where the temporary file cannot be removed afterwards. A failed replacement has changed
no file, and of what was there nothing has changed at all; directories that it has made on the way
remain. Where the path leads through the very place of its file, that place is one of them.
-/

namespace DriverKit.Disk

variable {disk : Disk} {path : Path} {content : Except Failure ByteArray}
  {faults : ReplacementFaults}

/-! ## The steps of a replacement -/

/-- The disk once the directories for a replacement have been made, as far as they can be. -/
def prepared (disk : Disk) (path : Path) (faults : ReplacementFaults) : Disk :=
  (disk.makeDirectories path.parent faults.makeDirectory).2

/-- The first steps of a replacement: directories are made, and then a temporary file. -/
def begin (disk : Disk) (path : Path) (faults : ReplacementFaults) : Except Failure Place := do
  (disk.makeDirectories path.parent faults.makeDirectory).1
  refuseIf faults.makeTemporary
  (disk.prepared path faults).temporaryPlace path

/-- The last steps of a replacement: the content is written to the temporary file, and that takes
the place of the file. -/
def finish (disk : Disk) (path : Path) (place : Place) (content : Except Failure ByteArray)
    (faults : ReplacementFaults) : Except Failure Disk := do
  let bytes ← content
  refuseIf faults.writeTemporary
  refuseIf faults.moveTemporary
  ((disk.prepared path faults).moveTo path place bytes).mapError .host

/-- The steps of a replacement up to the first one that fails, with nothing cleared up. -/
def attempt (disk : Disk) (path : Path) (content : Except Failure ByteArray)
    (faults : ReplacementFaults) : Except Failure Disk := do
  let place ← disk.begin path faults
  disk.finish path place content faults

theorem place_of_begin {place : Place} (begun : disk.begin path faults = .ok place) :
    (disk.prepared path faults).place path = .ok place := by
  obtain ⟨_, _, afterMade⟩ := bind_eq_ok_iff.mp begun
  obtain ⟨_, _, placed⟩ := bind_eq_ok_iff.mp afterMade
  exact place_of_temporaryPlace placed

theorem replace_of_begin_eq_error {failure : Failure}
    (begun : disk.begin path faults = .error failure) (content : Except Failure ByteArray) :
    disk.replace path content faults = (.fail failure, disk.prepared path faults) := by
  unfold begin prepared at begun
  unfold replace prepared
  simp only [begun]

theorem replace_of_finish_eq_ok {place : Place} {changed : Disk}
    (begun : disk.begin path faults = .ok place)
    (finished : disk.finish path place content faults = .ok changed) :
    disk.replace path content faults = (.done (), changed) := by
  unfold begin prepared at begun
  unfold finish prepared at finished
  unfold replace
  simp only [begun, finished]

theorem replace_of_finish_eq_error {place : Place} {failure : Failure}
    (begun : disk.begin path faults = .ok place)
    (finished : disk.finish path place content faults = .error failure) :
    (disk.replace path content faults).1.outcome = .error failure ∧
      (disk.replace path content faults).2
        = match faults.removeTemporary with
          | none => disk.prepared path faults
          | some _ =>
              (disk.prepared path faults).addTemporary place (content.toOption.getD .empty) := by
  unfold begin prepared at begun
  unfold finish prepared at finished
  unfold replace prepared
  simp only [begun, finished]
  cases faults.removeTemporary with
  | none => exact ⟨rfl, rfl⟩
  | some fault => exact ⟨rfl, rfl⟩

/-- A replacement ends as its steps do, whatever becomes of the temporary file. -/
theorem outcome_replace (disk : Disk) (path : Path) (content : Except Failure ByteArray)
    (faults : ReplacementFaults) :
    (disk.replace path content faults).1.outcome
      = (disk.attempt path content faults).map fun _ => () := by
  cases begun : disk.begin path faults with
  | error failure =>
      rw [replace_of_begin_eq_error begun, attempt, begun]
      rfl
  | ok place =>
      rw [attempt, begun, ok_bind]
      cases finished : disk.finish path place content faults with
      | error failure =>
          rw [(replace_of_finish_eq_error begun finished).1]
          rfl
      | ok changed =>
          rw [replace_of_finish_eq_ok begun finished]
          rfl

/-! ## What is left -/

/-- The places of the directories that the path of a file leads through. -/
def way (disk : Disk) (path : Path) : List Place :=
  (lineage path.parent path.parent.steps.length).map disk.destination

/-- A place is as it was, unless it is on the way to a file and has become a directory where nothing
was. -/
def SameOrMade (before after : Disk) (path : Path) (place : Place) : Prop :=
  after.at? place = before.at? place ∨
    place ∈ before.way path ∧ before.at? place = none ∧ after.at? place = some .directory

theorem SameOrMade.eq_of_not_mem {before after : Disk} {place : Place}
    (same : before.SameOrMade after path place) (notOnWay : place ∉ before.way path) :
    after.at? place = before.at? place := by
  rcases same with unchanged | ⟨onWay, _⟩
  · exact unchanged
  · exact absurd onWay notOnWay

/-- A change that makes the directories for a file, and at most puts the file in place, leaves every
other place as it was. -/
theorem sameOrMade_of_altered {before after : Disk} {files : List Path}
    (altered : before.Altered after (lineage path.parent path.parent.steps.length) files)
    {place : Place} (notFile : ∀ file ∈ files, place ≠ before.destination file) :
    before.SameOrMade after path place := by
  rcases altered.entries place with unchanged | ⟨absent, made, inner, member, leads⟩ |
    ⟨_, _, file, member, leads⟩
  · exact Or.inl unchanged
  · rw [eq_destination_of_place leads, altered.keepsDirectories.destination] at absent made ⊢
    exact Or.inr ⟨List.mem_map_of_mem member, absent, made⟩
  · have isFile := eq_destination_of_place leads
    rw [altered.keepsDirectories.destination] at isFile
    exact absurd isFile (notFile file member)

/-- The disk that a failed replacement leaves is the one on which its directories have been made,
but for the temporary file where the host does not remove it. -/
theorem left_of_replace (tree : disk.IsTree) {failure : Failure}
    (failed : (disk.replace path content faults).1.outcome = .error failure) :
    (disk.replace path content faults).2 = disk.prepared path faults ∨
      faults.removeTemporary ≠ none ∧
        ∃ bytes, (disk.replace path content faults).2
          = (disk.prepared path faults).addTemporary (disk.destination path) bytes := by
  obtain ⟨_, altered⟩ := altered_makeDirectories tree path.parent faults.makeDirectory
  cases begun : disk.begin path faults with
  | error cause =>
      rw [replace_of_begin_eq_error begun]
      exact Or.inl rfl
  | ok place =>
      cases finished : disk.finish path place content faults with
      | ok changed =>
          rw [replace_of_finish_eq_ok begun finished] at failed
          cases failed
      | error cause =>
          have isFile : place = disk.destination path :=
            (eq_destination_of_place (place_of_begin begun)).trans
              (altered.keepsDirectories.destination path)
          rw [(replace_of_finish_eq_error begun finished).2, isFile]
          cases removal : faults.removeTemporary with
          | none => exact Or.inl rfl
          | some fault => exact Or.inr ⟨by simp, _, rfl⟩

theorem sameOrMade_of_replace (tree : disk.IsTree) {failure : Failure}
    (failed : (disk.replace path content faults).1.outcome = .error failure) (place : Place) :
    disk.SameOrMade (disk.replace path content faults).2 path place := by
  obtain ⟨_, altered⟩ := altered_makeDirectories tree path.parent faults.makeDirectory
  have prepared : disk.SameOrMade (disk.prepared path faults) path place :=
    sameOrMade_of_altered altered (by simp)
  rcases left_of_replace tree failed with removed | ⟨_, bytes, kept⟩
  · rw [removed]
    exact prepared
  · rw [kept]
    exact prepared

theorem temporaries_of_replace (tree : disk.IsTree) {failure : Failure}
    (failed : (disk.replace path content faults).1.outcome = .error failure) :
    (disk.replace path content faults).2.temporaries = disk.temporaries ∨
      faults.removeTemporary ≠ none ∧
        ∃ bytes, (disk.replace path content faults).2.temporaries
          = (disk.destination path, bytes) :: disk.temporaries := by
  obtain ⟨_, altered⟩ := altered_makeDirectories tree path.parent faults.makeDirectory
  rcases left_of_replace tree failed with removed | ⟨refused, bytes, kept⟩
  · left
    rw [removed]
    exact altered.temporaries
  · refine Or.inr ⟨refused, bytes, ?_⟩
    rw [kept]
    exact congrArg _ altered.temporaries

theorem exists_content_of_replace (tree : disk.IsTree)
    (success : (disk.replace path content faults).1.outcome = .ok ()) :
    ∃ bytes, content = .ok bytes ∧
      (disk.replace path content faults).2.read path = .ok bytes ∧
      disk.Altered (disk.replace path content faults).2
        (lineage path.parent path.parent.steps.length) [path] := by
  have ended := replace_cases tree path content faults
  generalize disk.replace path content faults = pair at *
  obtain ⟨replaced, after⟩ := pair
  simp only at ended success ⊢
  rcases ended with ⟨_, ⟨⟨failure, failed⟩, _⟩ | ⟨_, found⟩⟩
  · rw [success] at failed
    cases failed
  · exact found

/-- A replacement is atomic wherever it fails. It ends as its steps do, and it makes no difference
to that whether the temporary file can be removed. Where it succeeds, the file has the content, and
nothing else has changed but that directories on the way to it have been made. Where it fails, such
directories are all that has been added, the file is as it was unless its path leads through its own
place, and a temporary file is left only where the host does not remove it. -/
theorem replace_is_atomic (tree : disk.IsTree) (path : Path)
    (content : Except Failure ByteArray) (faults : ReplacementFaults) :
    let replaced := (disk.replace path content faults).1
    let after := (disk.replace path content faults).2
    replaced.outcome = (disk.attempt path content faults).map (fun _ => ()) ∧
      (∀ removal,
        (disk.replace path content { faults with removeTemporary := removal }).1.outcome
          = replaced.outcome) ∧
      (replaced.outcome = .ok () →
        (∃ bytes, content = .ok bytes ∧ after.read path = .ok bytes) ∧
          (∀ place, place ≠ disk.destination path → disk.SameOrMade after path place) ∧
          after.temporaries = disk.temporaries) ∧
      ∀ failure, replaced.outcome = .error failure →
        (∀ place, disk.SameOrMade after path place) ∧
          (disk.destination path ∉ disk.way path →
            after.at? (disk.destination path) = disk.at? (disk.destination path)) ∧
          (after.temporaries = disk.temporaries ∨
            faults.removeTemporary ≠ none ∧
              ∃ bytes, after.temporaries = (disk.destination path, bytes) :: disk.temporaries) := by
  intro replaced after
  refine ⟨outcome_replace disk path content faults, fun removal => ?_, fun success => ?_,
    fun failure failed => ?_⟩
  · exact (outcome_replace disk path content _).trans
      (outcome_replace disk path content faults).symm
  · obtain ⟨bytes, given, readBack, altered⟩ := exists_content_of_replace tree success
    refine ⟨⟨bytes, given, readBack⟩, fun place elsewhere => ?_, altered.temporaries⟩
    exact sameOrMade_of_altered altered (by simpa using elsewhere)
  · have entries := sameOrMade_of_replace tree failed
    exact ⟨entries, fun notOnWay => (entries _).eq_of_not_mem notOnWay,
      temporaries_of_replace tree failed⟩

/-- A text that has no form in its encoding, over an older file, on a host that does not remove the
temporary file; and new bytes for the same file on a host that refuses nothing. -/
theorem replace_is_atomic_unencodable :
    let disk : Disk :=
      { Disk.empty with
        entries :=
          [(⟨["out"]⟩, .directory),
            (⟨["out", "note"]⟩, .file "old".toUTF8)] }
    let path := Path.ofText "out/note"
    let content : Except Failure ByteArray :=
      match Text.Encoding.ascii.encode "é" with
      | some bytes => .ok bytes
      | none => .error (.misuse .unencodable)
    let faults : ReplacementFaults := { removeTemporary := some (.other "busy") }
    disk.IsTree ∧
      (disk.replace path content faults).1.outcome = .error (.misuse .unencodable) ∧
      (disk.replace path content .none).1.outcome = .error (.misuse .unencodable) ∧
      disk.destination path ∉ disk.way path ∧
      (disk.replace path content faults).2.at? (disk.destination path) = some (.file "old".toUTF8) ∧
      (disk.replace path (.ok "new".toUTF8) .none).1.outcome = .ok () ∧
      (disk.replace path (.ok "new".toUTF8) .none).2.read path = .ok "new".toUTF8 := by
  intro disk path content faults
  have tree : disk.IsTree := isTree_of_entries (by decide)
  obtain ⟨_, removal, _, fails⟩ := replace_is_atomic tree path content faults
  have failed : (disk.replace path content faults).1.outcome = .error (.misuse .unencodable) := by
    rfl
  have elsewhere : disk.destination path ∉ disk.way path := by decide
  obtain ⟨_, target, _⟩ := fails _ failed
  obtain ⟨_, _, succeeds, _⟩ := replace_is_atomic tree path (.ok "new".toUTF8) .none
  have success : (disk.replace path (.ok "new".toUTF8) .none).1.outcome = .ok () := by rfl
  obtain ⟨⟨bytes, given, readBack⟩, _⟩ := succeeds success
  cases given
  exact ⟨tree, failed, (removal none).trans failed, elsewhere, target elsewhere, success, readBack⟩

/-- Where the path of a file leads through the place of the file itself, a failed replacement makes
that place a directory, though nothing was there before. -/
theorem replace_makes_target_directory :
    let path := Path.ofText "x/../x"
    let replaced := (Disk.empty.replace path (.ok "new".toUTF8) .none).1
    let after := (Disk.empty.replace path (.ok "new".toUTF8) .none).2
    Disk.empty.IsTree ∧ Disk.empty.at? (Disk.empty.destination path) = none ∧
      replaced.outcome = .error (.host (.replacesDirectory path.text)) ∧
      after.at? (Disk.empty.destination path) = some .directory := by
  exact ⟨isTree_of_entries (by decide), rfl, by rfl, by rfl⟩

end DriverKit.Disk
