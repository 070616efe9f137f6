import DriverKit.Proofs.Disk.Tree

/-!
# What changes of disks leave alone

How far a change of a disk reaches is said by the paths that it may make directories at and the
paths that it may put files at. Everything else stays as it was, also where a change fails on the
way. Such changes can be made one after the other.
-/

namespace DriverKit.Disk

/-- Two disks differ at most in directories where nothing was before, which some paths lead to, and
in files where no directory was before, which some other paths lead to. -/
structure Altered (before after : Disk) (directories files : List Path) : Prop where
  workingDirectory : after.workingDirectory = before.workingDirectory
  entries : ∀ place,
    after.at? place = before.at? place ∨
      (before.at? place = none ∧ after.at? place = some .directory ∧
        ∃ path ∈ directories, after.place path = .ok place) ∨
      (before.at? place ≠ some .directory ∧ (∃ bytes, after.at? place = some (.file bytes)) ∧
        ∃ path ∈ files, after.place path = .ok place)
  temporaries : after.temporaries = before.temporaries
  refusals : after.refusals = before.refusals

namespace Altered

variable {before middle after : Disk} {directories files : List Path}

theorem refl (disk : Disk) : disk.Altered disk directories files :=
  ⟨rfl, fun _ => Or.inl rfl, rfl, rfl⟩

theorem keepsDirectories (altered : before.Altered after directories files) :
    before.KeepsDirectories after := by
  refine ⟨altered.workingDirectory, fun place isDirectory => ?_⟩
  rcases altered.entries place with same | ⟨absent, _⟩ | ⟨notDirectory, _⟩
  · rw [same, isDirectory]
  · rw [isDirectory] at absent
    cases absent
  · exact absurd isDirectory notDirectory

theorem trans (first : before.Altered middle directories files)
    (second : middle.Altered after directories files) :
    before.Altered after directories files := by
  have keeps := second.keepsDirectories
  refine ⟨second.workingDirectory.trans first.workingDirectory, fun place => ?_,
    second.temporaries.trans first.temporaries, second.refusals.trans first.refusals⟩
  rcases second.entries place with same | ⟨absent, made, leads⟩ | ⟨notDirectory, written, leads⟩
  · rw [same]
    rcases first.entries place with unchanged | ⟨absent, made, path, member, found⟩ |
      ⟨notDirectory, written, path, member, found⟩
    · exact Or.inl unchanged
    · exact Or.inr (Or.inl ⟨absent, made, path, member, place_of_keepsDirectories keeps found⟩)
    · exact Or.inr
        (Or.inr ⟨notDirectory, written, path, member, place_of_keepsDirectories keeps found⟩)
  · rcases first.entries place with unchanged | ⟨_, isDirectory, _⟩ | ⟨_, ⟨bytes, isFile⟩, _⟩
    · exact Or.inr (Or.inl ⟨unchanged ▸ absent, made, leads⟩)
    · rw [isDirectory] at absent
      cases absent
    · rw [isFile] at absent
      cases absent
  · rcases first.entries place with unchanged | ⟨_, isDirectory, _⟩ | ⟨wasNone, _⟩
    · exact Or.inr (Or.inr ⟨unchanged ▸ notDirectory, written, leads⟩)
    · exact absurd isDirectory notDirectory
    · exact Or.inr (Or.inr ⟨wasNone, written, leads⟩)

theorem mono {moreDirectories moreFiles : List Path}
    (altered : before.Altered after directories files)
    (directoriesKept : directories ⊆ moreDirectories) (filesKept : files ⊆ moreFiles) :
    before.Altered after moreDirectories moreFiles := by
  refine ⟨altered.workingDirectory, fun place => ?_, altered.temporaries, altered.refusals⟩
  rcases altered.entries place with same | ⟨absent, made, path, member, found⟩ |
    ⟨notDirectory, written, path, member, found⟩
  · exact Or.inl same
  · exact Or.inr (Or.inl ⟨absent, made, path, directoriesKept member, found⟩)
  · exact Or.inr (Or.inr ⟨notDirectory, written, path, filesKept member, found⟩)

/-- Where no file is put in place, the files of both disks are the same, byte for byte. -/
theorem at?_eq_file_iff (altered : before.Altered after directories []) {place : Place}
    {bytes : ByteArray} :
    after.at? place = some (.file bytes) ↔ before.at? place = some (.file bytes) := by
  rcases altered.entries place with same | ⟨absent, made, _⟩ | ⟨_, _, path, member, _⟩
  · rw [same]
  · simp [absent, made]
  · cases member

/-- Where no file is put in place, what was read along a path is still read there. -/
theorem read_of_read (altered : before.Altered after directories []) {path : Path}
    {bytes : ByteArray} (found : before.read path = .ok bytes) : after.read path = .ok bytes := by
  obtain ⟨place, leads, isFile⟩ := exists_of_read found
  have leadsAfter := place_of_keepsDirectories altered.keepsDirectories leads
  rw [read, leadsAfter]
  simp only [altered.at?_eq_file_iff.mpr isFile]

end Altered

/-! ## Making directories -/

theorem exists_of_makeDirectory {disk made : Disk} {path : Path}
    (success : disk.makeDirectory path = .ok made) :
    ∃ place, disk.place path = .ok place ∧ disk.at? place = none ∧
      made = disk.put place .directory := by
  unfold makeDirectory at success
  split at success
  · cases success
  · rename_i place found
    split at success
    · cases success
    · rename_i absent
      cases success
      exact ⟨place, found, absent, rfl⟩

/-- Making a directory changes nothing but the place where it is made. -/
theorem altered_makeDirectory {disk made : Disk} (tree : disk.IsTree) {path : Path}
    (success : disk.makeDirectory path = .ok made) :
    made.IsTree ∧ disk.Altered made [path] [] := by
  obtain ⟨place, found, absent, rfl⟩ := exists_of_makeDirectory success
  have notDirectory : disk.at? place ≠ some .directory := by simp [absent]
  have parent := directory_of_place tree found notDirectory
  refine ⟨isTree_put tree notDirectory parent, rfl, fun other => ?_, rfl, rfl⟩
  rw [at?_put tree notDirectory]
  by_cases same : other = place
  · subst same
    have keeps : disk.KeepsDirectories (disk.put other .directory) :=
      keepsDirectories_put tree notDirectory
    have again := place_of_keepsDirectories keeps found
    exact Or.inr (Or.inl ⟨absent, if_pos rfl, path, List.mem_singleton_self path, again⟩)
  · exact Or.inl (if_neg same)

/-- Making directories one after the other changes nothing else, also where one cannot be made. -/
theorem altered_makeEach :
    ∀ {paths : List Path} {failing : Option (Nat × HostFault)} {disk : Disk}, disk.IsTree →
      (disk.makeEach failing paths).2.IsTree ∧
        disk.Altered (disk.makeEach failing paths).2 paths []
  | [], _, disk, tree => ⟨tree, Altered.refl disk⟩
  | path :: rest, failing, disk, tree => by
      simp only [makeEach]
      split
      · rename_i made attempted
        have success : disk.makeDirectory path = .ok made := by
          split at attempted
          · cases attempted
          · exact attempted
        obtain ⟨madeTree, first⟩ := altered_makeDirectory tree success
        obtain ⟨restTree, later⟩ := altered_makeEach madeTree
        have firstKept : [path] ⊆ path :: rest := by simp
        have laterKept : rest ⊆ path :: rest := List.subset_cons_self path rest
        have noFiles := List.Subset.refl ([] : List Path)
        exact ⟨restTree, (first.mono firstKept noFiles).trans (later.mono laterKept noFiles)⟩
      · split
        · obtain ⟨restTree, later⟩ := altered_makeEach tree
          exact ⟨restTree, later.mono (List.subset_cons_self path rest) (List.Subset.refl [])⟩
        · exact ⟨tree, Altered.refl disk⟩
        · exact ⟨tree, Altered.refl disk⟩

/-- Making a directory with those that it lies in makes directories on the way to it and changes
nothing else. -/
theorem altered_makeDirectories {disk : Disk} (tree : disk.IsTree) (path : Path)
    (failing : Option (Nat × HostFault)) :
    (disk.makeDirectories path failing).2.IsTree ∧
      disk.Altered (disk.makeDirectories path failing).2 (lineage path path.steps.length) [] := by
  unfold makeDirectories
  split
  · exact ⟨tree, Altered.refl disk⟩
  · obtain ⟨madeTree, altered⟩ := altered_makeEach tree
    refine ⟨madeTree, altered.mono (fun inner member => ?_) (List.Subset.refl [])⟩
    exact List.mem_of_mem_take (List.mem_reverse.mp member)

end DriverKit.Disk
