import DriverKit.Proofs.Discovery.Naming
import DriverKit.Proofs.KitVersion.Sorting

/-!
# What there is to find

A finding is a directory at a root whose name is a version. At roots that can be searched the
findings are known from the disk alone. With the newest first, equally new ones stand in the order
of the roots and then of their names, and each finding stands there once.
-/

namespace DriverKit.Discovery

open KitVersion (newestFirst)

/-! ## Findings -/

/-- A directory at a candidate root whose name is a version. -/
structure Finding where
  candidate : Candidate
  name : String
  version : KitVersion

namespace Finding

def installation (finding : Finding) : Installation :=
  ⟨finding.candidate.path, finding.version, finding.candidate.method⟩

/-- A finding is on a disk: its directory is in the version directory of one of the roots, and its
version is what the name of the directory says. -/
structure IsOn (disk : Disk) (roots : List Candidate) (finding : Finding) : Prop where
  root : finding.candidate ∈ roots
  within : disk.HasSubdirectory (KitLayout.versionRoot finding.candidate.path) finding.name
  notFrameworks : Text.lower finding.name ≠ "wdf"
  read : KitVersion.read finding.name = .ok finding.version

/-- Which of two findings stands first: the newer one; of equally new ones the one whose root is
looked at first; and at one root the one whose name is first by its code points. -/
def Precedes (roots : List Candidate) (earlier later : Finding) : Prop :=
  later.version.less earlier.version = true ∨
    (earlier.version.same later.version = true ∧
      ([earlier.candidate, later.candidate].Sublist roots ∨
        (earlier.candidate = later.candidate ∧ earlier.name < later.name)))

end Finding

/-- The findings at a candidate root, by their names. -/
def findingsAt (disk : Disk) (candidate : Candidate) : List Finding :=
  (readings disk candidate).map fun reading => ⟨candidate, reading.1, reading.2.version⟩

/-- The names of the directories at a candidate root. -/
def namesAt (disk : Disk) (candidate : Candidate) : List String :=
  let versionRoot := KitLayout.versionRoot candidate.path
  match disk.isDirectory versionRoot, disk.subdirectories versionRoot with
  | .ok true, .ok names => names
  | _, _ => []

theorem namesAt_of_listed {disk : Disk} {candidate : Candidate} {names : List String}
    (isThere : disk.isDirectory (KitLayout.versionRoot candidate.path) = .ok true)
    (listed : disk.subdirectories (KitLayout.versionRoot candidate.path) = .ok names) :
    namesAt disk candidate = names := by
  simp only [namesAt, isThere, listed]

theorem namesAt_of_missing {disk : Disk} {candidate : Candidate}
    (missing : disk.isDirectory (KitLayout.versionRoot candidate.path) = .ok false) :
    namesAt disk candidate = [] := by
  simp only [namesAt, missing]

/-- The host can be asked for the version directory of a root, and lists it if it is there. -/
def CanBeSearched (disk : Disk) (candidate : Candidate) : Prop :=
  let versionRoot := KitLayout.versionRoot candidate.path
  disk.isDirectory versionRoot = .ok false ∨
    (disk.isDirectory versionRoot = .ok true ∧ ∃ names, disk.subdirectories versionRoot = .ok names)

/-- What can be found at a root that can be searched. -/
theorem mem_namesAt_iff {disk : Disk} {candidate : Candidate} {name : String}
    (searchable : CanBeSearched disk candidate) :
    name ∈ namesAt disk candidate ↔
      disk.HasSubdirectory (KitLayout.versionRoot candidate.path) name := by
  rcases searchable with missing | ⟨isThere, names, listed⟩
  · rw [namesAt_of_missing missing]
    constructor
    · exact fun impossible => absurd impossible List.not_mem_nil
    · intro within
      have isThere := Disk.isDirectory_of_hasSubdirectory within
      rw [missing] at isThere
      cases isThere
  · rw [namesAt_of_listed isThere listed]
    exact Disk.mem_subdirectories_iff listed

theorem pairwise_namesAt {disk : Disk} {candidate : Candidate}
    (searchable : CanBeSearched disk candidate) :
    (namesAt disk candidate).Pairwise (· < ·) := by
  rcases searchable with missing | ⟨isThere, names, listed⟩
  · rw [namesAt_of_missing missing]
    exact List.Pairwise.nil
  · rw [namesAt_of_listed isThere listed]
    exact Disk.pairwise_subdirectories listed

theorem readings_eq {disk : Disk} {candidate : Candidate}
    (searchable : CanBeSearched disk candidate) :
    readings disk candidate = (namesAt disk candidate).filterMap (reading? candidate) := by
  rcases searchable with missing | ⟨isThere, names, listed⟩
  · simp only [readings, namesAt, missing, List.filterMap_nil]
  · simp only [readings, namesAt, isThere, listed]

theorem reading?_eq_some_iff {candidate : Candidate} {name : String}
    {reading : String × Installation} :
    reading? candidate name = some reading ↔
      KitLayout.isVersionCandidate name = true ∧
        ∃ version, KitVersion.read name = .ok version ∧
          reading = (name, ⟨candidate.path, version, candidate.method⟩) := by
  unfold reading?
  by_cases candidateName : KitLayout.isVersionCandidate name = true
  · cases accepted : KitVersion.read name with
    | error failure => simp [candidateName]
    | ok version => simp [candidateName, eq_comm]
  · simp [candidateName]

theorem isVersionCandidate_iff {name : String} :
    KitLayout.isVersionCandidate name = true ↔ Text.lower name ≠ "wdf" := bne_iff_ne

theorem mem_findingsAt_iff {disk : Disk} {candidate : Candidate} {finding : Finding}
    (searchable : CanBeSearched disk candidate) :
    finding ∈ findingsAt disk candidate ↔
      finding.candidate = candidate ∧ finding.IsOn disk [candidate] := by
  rw [findingsAt, List.mem_map, readings_eq searchable]
  constructor
  · rintro ⟨reading, member, rfl⟩
    obtain ⟨name, inNames, read⟩ := List.mem_filterMap.mp member
    obtain ⟨candidateName, version, accepted, rfl⟩ := reading?_eq_some_iff.mp read
    exact ⟨rfl, List.mem_singleton_self _, (mem_namesAt_iff searchable).mp inNames,
      isVersionCandidate_iff.mp candidateName, accepted⟩
  · rintro ⟨rfl, isOn⟩
    refine ⟨(finding.name, finding.installation), ?_, rfl⟩
    apply List.mem_filterMap.mpr
    refine ⟨finding.name, (mem_namesAt_iff searchable).mpr isOn.within, ?_⟩
    exact reading?_eq_some_iff.mpr
      ⟨isVersionCandidate_iff.mpr isOn.notFrameworks, finding.version, isOn.read, rfl⟩

theorem map_installation_findingsAt {disk : Disk} {candidate : Candidate}
    (searchable : CanBeSearched disk candidate) :
    (findingsAt disk candidate).map Finding.installation
      = (readings disk candidate).map Prod.snd := by
  rw [findingsAt, List.map_map]
  apply List.map_congr_left
  intro reading member
  rw [readings_eq searchable] at member
  obtain ⟨name, _, read⟩ := List.mem_filterMap.mp member
  obtain ⟨_, version, _, rfl⟩ := reading?_eq_some_iff.mp read
  rfl

theorem pairwise_findingsAt {disk : Disk} {candidate : Candidate}
    (searchable : CanBeSearched disk candidate) :
    (findingsAt disk candidate).Pairwise fun earlier later =>
      earlier.candidate = later.candidate ∧ earlier.name < later.name := by
  rw [findingsAt, List.pairwise_map, readings_eq searchable, List.pairwise_filterMap]
  refine (pairwise_namesAt searchable).imp fun {name other} before => ?_
  intro reading read otherReading otherRead
  obtain ⟨_, _, _, rfl⟩ := reading?_eq_some_iff.mp read
  obtain ⟨_, _, _, rfl⟩ := reading?_eq_some_iff.mp otherRead
  exact ⟨rfl, before⟩

/-! ## Findings at all roots -/

theorem mem_findings_iff {disk : Disk} {roots : List Candidate} {finding : Finding}
    (searchable : ∀ candidate ∈ roots, CanBeSearched disk candidate) :
    finding ∈ roots.flatMap (findingsAt disk) ↔ finding.IsOn disk roots := by
  rw [List.mem_flatMap]
  constructor
  · rintro ⟨candidate, inRoots, member⟩
    obtain ⟨rfl, isOn⟩ := (mem_findingsAt_iff (searchable candidate inRoots)).mp member
    exact { isOn with root := inRoots }
  · intro isOn
    refine ⟨finding.candidate, isOn.root, ?_⟩
    apply (mem_findingsAt_iff (searchable finding.candidate isOn.root)).mpr
    exact ⟨rfl, { isOn with root := List.mem_singleton_self _ }⟩

theorem map_installation_findings {disk : Disk} {roots : List Candidate}
    (searchable : ∀ candidate ∈ roots, CanBeSearched disk candidate) :
    (roots.flatMap (findingsAt disk)).map Finding.installation
      = (roots.flatMap (readings disk)).map Prod.snd := by
  rw [List.map_flatMap, List.map_flatMap]
  exact List.flatMap_congr fun candidate inRoots =>
    map_installation_findingsAt (searchable candidate inRoots)

theorem pairwise_findings {disk : Disk} {roots : List Candidate}
    (searchable : ∀ candidate ∈ roots, CanBeSearched disk candidate) :
    (roots.flatMap (findingsAt disk)).Pairwise fun earlier later =>
      [earlier.candidate, later.candidate].Sublist roots ∨
        (earlier.candidate = later.candidate ∧ earlier.name < later.name) := by
  rw [List.pairwise_flatMap]
  constructor
  · intro candidate inRoots
    exact (pairwise_findingsAt (searchable candidate inRoots)).imp Or.inr
  · have inOrder : roots.Pairwise fun earlier later => [earlier, later].Sublist roots :=
      List.pairwise_iff_forall_sublist.mpr id
    refine inOrder.imp_of_mem fun {candidate other} inRoots otherInRoots before => ?_
    intro earlier earlierMember later laterMember
    obtain ⟨rfl, _⟩ := (mem_findingsAt_iff (searchable candidate inRoots)).mp earlierMember
    obtain ⟨rfl, _⟩ := (mem_findingsAt_iff (searchable other otherInRoots)).mp laterMember
    exact Or.inl before

/-- With the newest first, findings stand in their order of precedence. -/
theorem pairwise_precedes {disk : Disk} {roots : List Candidate}
    (searchable : ∀ candidate ∈ roots, CanBeSearched disk candidate) :
    (newestFirst Finding.version (roots.flatMap (findingsAt disk))).Pairwise
      (Finding.Precedes roots) := by
  have ranked := KitVersion.pairwise_newestFirst_of_pairwise Finding.version
    (pairwise_findings searchable)
  have hasFields : ∀ finding ∈ newestFirst Finding.version (roots.flatMap (findingsAt disk)),
      finding.version.fields ≠ [] := by
    intro finding member
    have inFindings := (KitVersion.newestFirst_perm _ _).mem_iff.mp member
    have isOn := (mem_findings_iff searchable).mp inFindings
    exact (KitVersion.isReadable_of_read isOn.read).fields_ne_nil
  refine ranked.imp_of_mem fun {earlier later} earlierMember laterMember order => ?_
  rcases order with newer | ⟨sameRank, inOrder⟩
  · exact Or.inl (KitVersion.less_iff.mpr newer)
  · refine Or.inr ⟨?_, inOrder⟩
    rw [KitVersion.same_iff (hasFields earlier earlierMember) (hasFields later laterMember)]
    exact sameRank

theorem Finding.not_precedes_self {roots : List Candidate} (nodup : roots.Nodup)
    (finding : Finding) : ¬ finding.Precedes roots finding := by
  rintro (newer | ⟨_, twice | ⟨_, before⟩⟩)
  · exact lt_irrefl _ (KitVersion.less_iff.mp newer)
  · have different := List.pairwise_iff_forall_sublist.mp nodup twice
    exact different rfl
  · exact String.lt_irrefl finding.name before

theorem nodup_of_pairwise_precedes {roots : List Candidate} (nodup : roots.Nodup)
    {findings : List Finding} (inOrder : findings.Pairwise (Finding.Precedes roots)) :
    findings.Nodup := by
  refine inOrder.imp fun {earlier later} precedes same => ?_
  subst same
  exact earlier.not_precedes_self nodup precedes

theorem distinctRoots_congr {disk other : Disk}
    (same : other.workingDirectory = disk.workingDirectory) :
    distinctRoots other = distinctRoots disk := by
  funext candidates
  rw [distinctRoots, distinctRoots, same]

theorem nodup_distinctRoots (disk : Disk) (candidates : List Candidate) :
    (distinctRoots disk candidates).Nodup := by
  refine pairwise_distinctBy.imp fun {earlier later} different same => ?_
  subst same
  simp at different

end DriverKit.Discovery
