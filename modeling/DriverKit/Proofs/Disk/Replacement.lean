import DriverKit.Disk.Replacement
import DriverKit.Proofs.Disk.Change
import DriverKit.Proofs.Outcome
import DriverKit.Proofs.Path

/-!
# Replacing a file is all or nothing

A replacement either puts all the new bytes in place or, on a host that can remove temporary files,
leaves every file as it was, wherever on the way it fails. In both cases no temporary file is left,
and besides the file only the directories that it lies in are made.
-/

namespace DriverKit.Disk

theorem place_of_temporaryPlace {disk : Disk} {path : Path} {place : Place}
    (accepted : disk.temporaryPlace path = .ok place) : disk.place path = .ok place := by
  unfold temporaryPlace at accepted
  split at accepted
  · cases accepted
  · split at accepted
    · cases accepted
    · exact mapError_eq_ok_iff.mp accepted

theorem notDirectory_of_moveTo {disk changed : Disk} {path : Path} {place : Place}
    {bytes : ByteArray} (moved : disk.moveTo path place bytes = .ok changed) :
    disk.at? place ≠ some .directory ∧ changed = disk.put place (.file bytes) := by
  unfold moveTo at moved
  split at moved
  · cases moved
  · split at moved
    · cases moved
    · rename_i notDirectory
      cases moved
      exact ⟨notDirectory, rfl⟩

/-- A file that is put where a path leads is read along that path, and nothing else changes. -/
theorem altered_put_file {disk : Disk} (tree : disk.IsTree) {path : Path} {place : Place}
    (found : disk.place path = .ok place) (notDirectory : disk.at? place ≠ some .directory)
    (bytes : ByteArray) :
    (disk.put place (.file bytes)).IsTree ∧ (disk.put place (.file bytes)).read path = .ok bytes ∧
      disk.Altered (disk.put place (.file bytes)) [] [path] := by
  have parent := directory_of_place tree found notDirectory
  have again : (disk.put place (.file bytes)).place path = .ok place :=
    place_of_keepsDirectories (keepsDirectories_put tree notDirectory) found
  have here : (disk.put place (.file bytes)).at? place = some (.file bytes) := by
    rw [at?_put tree notDirectory, if_pos rfl]
  refine ⟨isTree_put tree notDirectory parent, by simp [read, again, here],
    rfl, fun other => ?_, rfl, rfl⟩
  by_cases same : other = place
  · subst same
    exact Or.inr (Or.inr ⟨notDirectory, ⟨bytes, here⟩, path, List.mem_singleton_self path, again⟩)
  · rw [at?_put tree notDirectory]
    exact Or.inl (if_neg same)

/-- How a replacement ends: with a failure and every file as it was, as long as the host removes
temporary files, or with the new bytes in place. -/
theorem replace_cases {disk : Disk} (tree : disk.IsTree) (path : Path)
    (content : Except Failure ByteArray) (faults : ReplacementFaults) :
    let (replaced, after) := disk.replace path content faults
    let directories := lineage path.parent path.parent.steps.length
    after.IsTree ∧
      ((∃ failure, replaced.outcome = .error failure) ∧
          (faults.removeTemporary = none → disk.Altered after directories []) ∨
        replaced.outcome = .ok () ∧
          ∃ bytes, content = .ok bytes ∧ after.read path = .ok bytes ∧
            disk.Altered after directories [path]) := by
  obtain ⟨madeTree, madeAltered⟩ := altered_makeDirectories tree path.parent faults.makeDirectory
  unfold replace
  simp only
  generalize disk.makeDirectories path.parent faults.makeDirectory = madePair at *
  obtain ⟨made, madeDisk⟩ := madePair
  simp only at madeTree madeAltered ⊢
  split
  · rename_i failure _
    exact ⟨madeTree, Or.inl ⟨⟨failure, rfl⟩, fun _ => madeAltered⟩⟩
  · rename_i place begun
    split
    · rename_i changed finished
      obtain ⟨_, _, afterMade⟩ := bind_eq_ok_iff.mp begun
      obtain ⟨_, _, placed⟩ := bind_eq_ok_iff.mp afterMade
      obtain ⟨bytes, given, afterContent⟩ := bind_eq_ok_iff.mp finished
      obtain ⟨_, _, afterWrite⟩ := bind_eq_ok_iff.mp afterContent
      obtain ⟨_, _, afterMove⟩ := bind_eq_ok_iff.mp afterWrite
      have found := place_of_temporaryPlace placed
      obtain ⟨notDirectory, rfl⟩ := notDirectory_of_moveTo (mapError_eq_ok_iff.mp afterMove)
      obtain ⟨putTree, readBack, putAltered⟩ := altered_put_file madeTree found notDirectory bytes
      refine ⟨putTree, Or.inr ⟨rfl, bytes, given, readBack, ?_⟩⟩
      have allDirectories := List.Subset.refl (lineage path.parent path.parent.steps.length)
      exact
        (madeAltered.mono allDirectories (List.nil_subset _)).trans
          (putAltered.mono (List.nil_subset _) (List.Subset.refl [path]))
    · rename_i failure _
      cases removes : faults.removeTemporary with
      | none => exact ⟨madeTree, Or.inl ⟨⟨failure, rfl⟩, fun _ => madeAltered⟩⟩
      | some fault => exact ⟨madeTree, Or.inl ⟨⟨failure, rfl⟩, fun removed => nomatch removed⟩⟩

/-! ## Failures of a replacement -/

/-- Only the host makes an outcome fail. -/
def FailsByHost {α : Type} (outcome : Except Failure α) : Prop :=
  ∀ failure, outcome = .error failure → ∃ fault, failure = .host fault

theorem failsByHost_ok {α : Type} (value : α) : FailsByHost (.ok value) :=
  FailsOnly.ok value

theorem failsByHost_mapError {α : Type} (answer : Except HostFault α) :
    FailsByHost (answer.mapError .host) := by
  intro failure failed
  cases answer with
  | error fault =>
      cases failed
      exact ⟨fault, rfl⟩
  | ok value => cases failed

theorem failsByHost_bind {α β : Type} {first : Except Failure α} {next : α → Except Failure β}
    (firstFails : FailsByHost first) (nextFails : ∀ value, FailsByHost (next value)) :
    FailsByHost (first >>= next) :=
  FailsOnly.bind firstFails nextFails

theorem failsByHost_refuseIf (fault : Option HostFault) : FailsByHost (refuseIf fault) := by
  intro failure failed
  cases fault with
  | none => cases failed
  | some fault =>
      cases failed
      exact ⟨fault, rfl⟩

theorem failsByHost_makeDirectories (disk : Disk) {path : Path}
    (nameable : path.isNameable = true) (failing : Option (Nat × HostFault)) :
    FailsByHost (disk.makeDirectories path failing).1 := by
  rw [makeDirectories, nameable]
  exact failsByHost_mapError _

theorem failsByHost_temporaryPlace (disk : Disk) {path : Path}
    (nameable : path.isNameable = true) : FailsByHost (disk.temporaryPlace path) := by
  unfold temporaryPlace
  rw [nameable]
  intro failure failed
  simp only [Bool.not_true, Bool.false_eq_true, if_false] at failed
  split at failed
  · cases failed
    exact ⟨_, rfl⟩
  · cases found : disk.place path with
    | error obstacle =>
        rw [found] at failed
        cases failed
        exact ⟨_, rfl⟩
    | ok place =>
        rw [found] at failed
        cases failed

/-- Where a path can be told to the host and the content has a form as bytes, only the host makes a
replacement fail. -/
theorem failsByHost_replace (disk : Disk) {path : Path} (nameable : path.isNameable = true)
    (bytes : ByteArray) (faults : ReplacementFaults) :
    FailsByHost (disk.replace path (.ok bytes) faults).1.outcome := by
  have made :=
    failsByHost_makeDirectories disk (Path.isNameable_parent nameable) faults.makeDirectory
  unfold replace
  simp only
  generalize disk.makeDirectories path.parent faults.makeDirectory = madePair at *
  obtain ⟨madeOutcome, madeDisk⟩ := madePair
  have begins :
      FailsByHost (do
        madeOutcome
        refuseIf faults.makeTemporary
        madeDisk.temporaryPlace path) :=
    failsByHost_bind made fun _ =>
      failsByHost_bind (failsByHost_refuseIf _) fun _ => failsByHost_temporaryPlace _ nameable
  have finishes :
      ∀ place,
        FailsByHost (do
          let bytes ← Except.ok bytes
          refuseIf faults.writeTemporary
          refuseIf faults.moveTemporary
          (madeDisk.moveTo path place bytes).mapError .host) :=
    fun place =>
      failsByHost_bind (failsByHost_ok bytes) fun _ =>
        failsByHost_bind (failsByHost_refuseIf _) fun _ =>
          failsByHost_bind (failsByHost_refuseIf _) fun _ => failsByHost_mapError _
  intro failure failed
  split at failed
  · rename_i cause begun
    cases failed
    exact begins failure begun
  · rename_i place begun
    split at failed
    · cases failed
    · rename_i cause finished
      split at failed
      · cases failed
        exact finishes place failure finished
      · rw [Traced.outcome_bind] at failed
        cases failed
        exact finishes place failure finished

end DriverKit.Disk
