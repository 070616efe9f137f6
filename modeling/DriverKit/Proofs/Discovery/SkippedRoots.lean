import DriverKit.Proofs.Discovery.Ending
import DriverKit.Proofs.Disk.Standard

/-!
# Roots that are skipped

A root is skipped when an earlier one has its standard form, although only one of the two need lead
anywhere. The kits of a standard location are found exactly if one of the roots that are left leads
to its directory. If the first location of its standard form leads anywhere, that one does.
-/

namespace DriverKit

/-! ## Names of versions -/

theorem KitVersion.dot_mem_of_read {name : String} {version : KitVersion}
    (accepted : read name = .ok version) : '.' ∈ name.toList := by
  obtain ⟨enough, _⟩ := read_eq_ok_iff.mp accepted
  by_contra absent
  have notKept : '.' ∉ Text.trimmed name.toList := fun kept =>
    absent (Text.mem_of_mem_trimmed kept)
  rw [runs, Text.pieces_of_not_mem notKept] at enough
  simp at enough

theorem Text.dot_mem_lowerAfter :
    ∀ {characters : List Char} (afterCased : Bool), '.' ∈ characters →
      '.' ∈ lowerAfter afterCased characters
  | c :: rest, afterCased, member => by
      rw [lowerAfter, List.mem_append]
      rcases List.mem_cons.mp member with here | later
      · subst here
        exact Or.inl List.mem_cons_self
      · exact Or.inr (dot_mem_lowerAfter _ later)

/-- The directory of the frameworks has no name that is a version. -/
theorem KitVersion.lower_ne_of_read {name : String} {version : KitVersion}
    (accepted : read name = .ok version) : Text.lower name ≠ "wdf" := by
  intro isFrameworks
  have inLower : '.' ∈ (Text.lower name).toList := by
    rw [Text.lower, String.toList_ofList]
    exact Text.dot_mem_lowerAfter false (dot_mem_of_read accepted)
  rw [isFrameworks] at inLower
  exact absurd inLower (by decide)

/-! ## Two paths to a directory -/

/-- A kit at one root that leads to a directory is there at every other one. -/
theorem Disk.HasSubdirectory.of_place {disk : Disk} {root other : Path} {name : String}
    {directory : Place} (within : disk.HasSubdirectory (KitLayout.versionRoot root) name)
    (leads : disk.place root = .ok directory) (otherLeads : disk.place other = .ok directory)
    (short : disk.place (KitLayout.versionRoot other) ≠ .error .overlong) :
    disk.HasSubdirectory (KitLayout.versionRoot other) name := by
  obtain ⟨named, place, found, isThere, isOne⟩ := within
  have isName : Disk.isName "Lib" = true := by decide
  obtain ⟨through, throughLeads, here, rfl⟩ := Disk.exists_of_place_child isName found
  have same : through = directory := Except.ok.inj (throughLeads.symm.trans leads)
  subst same
  rcases Disk.place_child_or_overlong isName otherLeads here with otherFound | overlong
  · exact ⟨named, _, otherFound, isThere, isOne⟩
  · exact absurd overlong short

namespace Discovery

variable {disk : Disk} {environment : Environment} {store : Store} {standard : List Path}

/-- The standard locations as candidates. -/
def standardRoots (standard : List Path) : List Candidate :=
  standard.map fun path => ⟨path, "standard_location"⟩

theorem outcome_all_standard (noOverride : Candidate.override? environment = none)
    (noStored : (Candidate.ofStore store).outcome = .ok none) :
    (Candidate.all environment store standard).outcome = .ok (standardRoots standard) := by
  unfold Candidate.all
  rw [noOverride]
  simp only [Traced.outcome_bind, noStored, ok_bind]
  rfl

/-- Tells whether a path has the standard form of a location. -/
def SameStandard (disk : Disk) (location path : Path) : Bool :=
  path.standard disk.workingDirectory == location.standard disk.workingDirectory

/-- The first location of a standard form is not skipped. -/
theorem mem_distinctRoots_of_find? {location kept : Path}
    (first : standard.find? (SameStandard disk location) = some kept) :
    ⟨kept, "standard_location"⟩ ∈ distinctRoots disk (standardRoots standard) := by
  let form (root : Candidate) : Path.Standard := root.path.standard disk.workingDirectory
  have lawful : Equivalence fun left right : Candidate => (form left == form right) = true :=
    beq_equivalence.comap form
  have found :
      (standardRoots standard).find? (form · == form ⟨location, "standard_location"⟩)
        = some ⟨kept, "standard_location"⟩ := by
    rw [standardRoots, List.find?_map]
    exact congrArg (Option.map _) first
  exact mem_distinctBy_of_find? lawful found

/-- A search has returned an installation whose root leads to a directory. -/
def ReturnsRootAt (disk : Disk) (directory : Place)
    (found : Except Failure (List Installation)) : Prop :=
  ∃ installations, found = .ok installations ∧
    ∃ installation ∈ installations, disk.place installation.root = .ok directory

/-- The kits in a directory are found exactly if one of the roots that are searched leads there. -/
theorem returnsRootAt_iff {all : List Candidate}
    (chosen : (Candidate.all environment store standard).outcome = .ok all)
    (searchable : ∀ root ∈ distinctRoots disk all, CanBeSearched disk root)
    {location : Path} {directory : Place} (leads : disk.place location = .ok directory)
    {name : String} {version : KitVersion}
    (within : disk.HasSubdirectory (KitLayout.versionRoot location) name)
    (accepted : KitVersion.read name = .ok version) :
    ReturnsRootAt disk directory (discover disk environment store standard).found.outcome ↔
      ∃ root ∈ distinctRoots disk all, disk.place root.path = .ok directory := by
  constructor
  · rintro ⟨installations, found, installation, member, rootLeads⟩
    obtain ⟨findings, _, _, complete, _, rfl⟩ := exists_findings_of_discover chosen found
    obtain ⟨finding, inFindings, rfl⟩ := List.mem_map.mp member
    exact ⟨finding.candidate, ((complete finding).mp inFindings).root, rootLeads⟩
  · rintro ⟨root, inRoots, rootLeads⟩
    have short : disk.place (KitLayout.versionRoot root.path) ≠ .error .overlong := by
      intro overlong
      have unasked := Disk.isDirectory_eq_error_iff.mpr ⟨overlong, rfl⟩
      rcases searchable root inRoots with missing | ⟨isThere, _⟩
      · rw [missing] at unasked
        cases unasked
      · rw [isThere] at unasked
        cases unasked
    have isOn : Finding.IsOn disk (distinctRoots disk all) ⟨root, name, version⟩ :=
      ⟨inRoots, within.of_place leads rootLeads short, KitVersion.lower_ne_of_read accepted,
        accepted⟩
    obtain ⟨installations, found, member⟩ := exists_of_isOn chosen searchable isOn
    exact ⟨installations, found, _, member, rootLeads⟩

/-- Where the host lists what is there, the kits of a standard location are found if the first
location of its standard form leads anywhere, and else if any root that is left leads to its
directory. -/
theorem discover_of_standard_location {locator : Locator} {surroundings : Surroundings}
    {location : Path} {name : String} {version : KitVersion}
    (noOverride : Candidate.override? surroundings.environment = none)
    (noStored : (Candidate.ofStore surroundings.store).outcome = .ok none)
    (listable : ∀ root ∈ standardRoots locator.standard, IsListable surroundings.disk root)
    (isLocation : location ∈ locator.standard)
    (within : surroundings.disk.HasSubdirectory (KitLayout.versionRoot location) name)
    (accepted : KitVersion.read name = .ok version) :
    let disk := surroundings.disk
    let found := (locator.discover surroundings).1.outcome
    let roots := distinctRoots disk (standardRoots locator.standard)
    (∃ root ∈ roots, EndsOverlong disk root found) ∨
      ∃ directory kept,
        disk.place location = .ok directory ∧
          locator.standard.find? (SameStandard disk location) = some kept ∧
          ((∃ place, disk.place kept = .ok place) → ReturnsRootAt disk directory found) ∧
          (ReturnsRootAt disk directory found ↔
            ∃ root ∈ roots, disk.place root.path = .ok directory) := by
  intro disk found roots
  have chosen : (Candidate.all surroundings.environment surroundings.store
      locator.standard).outcome = .ok (standardRoots locator.standard) :=
    outcome_all_standard noOverride noStored
  have rootsListable : ∀ root ∈ roots, IsListable disk root := fun root inRoots =>
    listable root (distinctBy_sublist.subset inRoots)
  rcases canBeSearched_or_endsOverlong chosen rootsListable with searchable | overlong
  · right
    have leadsOn := within
    obtain ⟨_, place, versionsFound, _⟩ := leadsOn
    obtain ⟨directory, leads, _, _⟩ := Disk.exists_of_place_child (by decide) versionsFound
    have foundIff := returnsRootAt_iff chosen searchable leads within accepted
    have isSome : (locator.standard.find? (SameStandard disk location)).isSome = true :=
      List.find?_isSome.mpr ⟨location, isLocation, beq_self_eq_true _⟩
    obtain ⟨kept, first⟩ := Option.isSome_iff_exists.mp isSome
    refine ⟨directory, kept, leads, first, ?_, foundIff⟩
    rintro ⟨other, keptLeads⟩
    have sameForm : kept.standard disk.workingDirectory
        = location.standard disk.workingDirectory := by
      simpa [SameStandard] using List.find?_some first
    have samePlace := Disk.place_eq_of_standard_eq sameForm keptLeads leads
    exact foundIff.mpr ⟨_, mem_distinctRoots_of_find? first, samePlace ▸ keptLeads⟩
  · exact Or.inl overlong

/-- An absolute location is skipped for an earlier relative one that takes a way round to it. -/
theorem discover_of_standard_location_way_round :
    let disk : Disk :=
      { Disk.empty with
        entries :=
          [["x"], ["k"], ["k", "Lib"], ["k", "Lib", "10.0"]].map fun names =>
            (⟨names⟩, .directory) }
    let surroundings : Surroundings := { disk, environment := [], store := .absent }
    let locator := Locator.ofStandard (["x/../k", "/k"].map Path.ofText)
    distinctRoots disk (standardRoots locator.standard)
        = [⟨Path.ofText "x/../k", "standard_location"⟩] ∧
      ReturnsRootAt disk ⟨["k"]⟩ (locator.discover surroundings).1.outcome := by
  intro disk surroundings locator
  let round : Candidate := ⟨Path.ofText "x/../k", "standard_location"⟩
  have roots : distinctRoots disk (standardRoots locator.standard) = [round] := by decide +kernel
  have asked :
      (∀ root ∈ standardRoots locator.standard,
        (disk.subdirectories (KitLayout.versionRoot root.path)).toOption.isSome = true) ∧
        (disk.place (KitLayout.versionRoot round.path)).toOption.isSome = true ∧
        disk.place round.path = .ok ⟨["k"]⟩ ∧
        disk.place (Path.ofText "/k") = .ok ⟨["k"]⟩ ∧
        disk.place (KitLayout.versionRoot (Path.ofText "/k")) = .ok ⟨["k", "Lib"]⟩ := by
    decide +kernel
  obtain ⟨allListed, rootAsked, roundLeads, leads, versionsFound⟩ := asked
  have listable : ∀ root ∈ standardRoots locator.standard, IsListable disk root :=
    fun root inRoots _ => exists_ok_of_isSome (allListed root inRoots)
  have within : disk.HasSubdirectory (KitLayout.versionRoot (Path.ofText "/k")) "10.0" :=
    ⟨by decide, _, versionsFound, by decide +kernel, by decide +kernel⟩
  have accepted : KitVersion.read "10.0" = .ok ⟨[10, 0]⟩ := rfl
  have noOverride : Candidate.override? surroundings.environment = none := by decide +kernel
  have noStored : (Candidate.ofStore surroundings.store).outcome = .ok none := rfl
  refine ⟨roots, ?_⟩
  rcases discover_of_standard_location noOverride noStored listable
      (List.mem_cons_of_mem _ List.mem_cons_self) within accepted with
    ⟨root, inRoots, ends⟩ | ⟨directory, _, locationLeads, _, _, foundIff⟩
  · rw [roots, List.mem_singleton] at inRoots
    subst inRoots
    have overlong := ends.overlong
    rw [overlong] at rootAsked
    cases rootAsked
  · have same : directory = ⟨["k"]⟩ := Except.ok.inj (locationLeads.symm.trans leads)
    rw [← same]
    apply foundIff.mpr
    refine ⟨round, ?_, same ▸ roundLeads⟩
    rw [roots]
    exact List.mem_singleton_self round

end Discovery

end DriverKit
