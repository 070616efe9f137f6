import DriverKit.BuildStep
import DriverKit.Proofs.Discovery.Search
import DriverKit.Proofs.Resolution

/-!
# Paths to watch

A configuration says which paths to watch: as long as nothing changes there, a build step has the
same configuration. That holds as far as a search looked at paths that were there. A root without a
version directory is looked at as well, but its version directory is not watched unless the
configuration lies in it, so a kit that is installed at such a root later goes unnoticed.
-/

namespace DriverKit

/-! ## Hosts that agree -/

/-- Two hosts agree at a path: it leads to a directory on both or on neither, and the directory
holds the same directories. -/
structure Disk.AgreesAt (disk other : Disk) (path : Path) : Prop where
  isDirectory : disk.isDirectory path = .ok true ↔ other.isDirectory path = .ok true
  subdirectories : ∀ name, disk.HasSubdirectory path name ↔ other.HasSubdirectory path name

theorem Disk.agreesAt_of_missing {disk other : Disk} {path : Path}
    (missing : disk.isDirectory path = .ok false)
    (otherMissing : other.isDirectory path = .ok false) : disk.AgreesAt other path := by
  constructor
  · rw [missing, otherMissing]
  · intro name
    constructor
    · intro within
      rw [Disk.isDirectory_of_hasSubdirectory within] at missing
      cases missing
    · intro within
      rw [Disk.isDirectory_of_hasSubdirectory within] at otherMissing
      cases otherMissing

theorem Disk.agreesAt_of_listed {disk other : Disk} {path : Path} {names : List String}
    (listed : disk.subdirectories path = .ok names)
    (otherListed : other.subdirectories path = .ok names) : disk.AgreesAt other path := by
  constructor
  · rw [Disk.isDirectory_of_subdirectories listed, Disk.isDirectory_of_subdirectories otherListed]
  · intro name
    rw [← Disk.mem_subdirectories_iff listed, ← Disk.mem_subdirectories_iff otherListed]

/-- A search gives the same answers at a root if the hosts agree on its version directory. -/
theorem Discovery.answersSame_of_agreesAt {disk other : Disk} {root : Candidate}
    (agrees : disk.AgreesAt other (KitLayout.versionRoot root.path))
    (searchable : CanBeSearched disk root) (otherSearchable : CanBeSearched other root) :
    AnswersSame disk other root := by
  rcases searchable with missing | ⟨isThere, names, listed⟩ <;>
    rcases otherSearchable with otherMissing | ⟨otherIsThere, otherNames, otherListed⟩
  · exact answersSame_of_missing missing otherMissing
  · rw [agrees.isDirectory.mpr otherIsThere] at missing
    cases missing
  · rw [agrees.isDirectory.mp isThere] at otherMissing
    cases otherMissing
  · refine ⟨isThere.trans otherIsThere.symm, fun _ => ?_⟩
    rw [listed, otherListed, Disk.eq_of_subdirectories listed otherListed agrees.subdirectories]

/-! ## Verification -/

theorem Disk.missing_eq_nil_iff {disk : Disk} :
    ∀ {paths : List Path},
      disk.missing paths = .ok [] ↔ ∀ path ∈ paths, disk.isDirectory path = .ok true
  | [] => by simp [missing]
  | path :: rest => by
      simp only [missing, bind_eq_ok_iff, List.forall_mem_cons]
      constructor
      · rintro ⟨isThere, asked, others, othersMissing, noneMissing⟩
        cases isThere with
        | false => cases noneMissing
        | true =>
            cases noneMissing
            exact ⟨asked, missing_eq_nil_iff.mp othersMissing⟩
      · rintro ⟨asked, others⟩
        exact ⟨true, asked, [], missing_eq_nil_iff.mpr others, rfl⟩

theorem BuildConfig.verify_eq_ok_iff {config verified : BuildConfig} {disk : Disk} :
    config.verify disk = .ok verified ↔
      config = verified ∧
        ∀ path ∈ config.includeDirs ++ config.libDirs, disk.isDirectory path = .ok true := by
  rw [← Disk.missing_eq_nil_iff, verify, missingDirectories]
  cases disk.missing (config.includeDirs ++ config.libDirs) with
  | error fault => simp
  | ok missing =>
      cases missing with
      | nil => simp
      | cons first rest => simp

/-! ## Build steps -/

namespace BuildStep

/-- The search of a build step for kits. -/
def search (step : BuildStep) (disk : Disk) : Discovery :=
  Discovery.discover disk step.environment step.store step.standard

/-- The candidate roots of a build step. -/
def candidates (step : BuildStep) : Traced (List Candidate) :=
  Candidate.all step.environment step.store step.standard

/-- The configuration that a build step makes of what a search has found, not yet verified. -/
def selected (step : BuildStep) (discovery : Discovery) : Traced BuildConfig := do
  let layout ← step.options.kitLayout step.parts
  let driver ← step.options.driverConfig
  let arch ← step.options.target step.machine
  let pin ← step.options.pin
  let installations ← discovery.found
  Resolution.resolve layout installations driver arch pin discovery.consulted

/-- A build step looks at the disk to search for kits and, if it is to, to verify the directories
of its configuration. -/
theorem resolve_eq_ok_iff {step : BuildStep} {disk : Disk} {config : BuildConfig} :
    (step.resolve disk).outcome = .ok config ↔
      (step.selected (step.search disk)).outcome = .ok config ∧
        (step.verify = true →
          ∀ path ∈ config.includeDirs ++ config.libDirs, disk.isDirectory path = .ok true) := by
  have inTwoParts : (step.resolve disk).outcome
      = (step.selected (step.search disk)).outcome >>= fun made =>
          if step.verify = true then made.verify disk else .ok made := by
    simp only [resolve, selected, Traced.outcome_bind, bind_assoc]
    cases step.verify with
    | false => rfl
    | true => rfl
  rw [inTwoParts, bind_eq_ok_iff]
  cases step.verify with
  | false => simp
  | true =>
      simp only [if_true, BuildConfig.verify_eq_ok_iff, forall_const]
      constructor
      · rintro ⟨made, found, rfl, present⟩
        exact ⟨found, present⟩
      · rintro ⟨found, present⟩
        exact ⟨config, found, rfl, present⟩

theorem found_of_selected {step : BuildStep} {discovery : Discovery} {config : BuildConfig}
    (selected : (step.selected discovery).outcome = .ok config) :
    (∃ installations, discovery.found.outcome = .ok installations) ∧
      ∀ path ∈ config.includeDirs ++ config.libDirs ++ discovery.consulted,
        path ∈ config.rerunPaths := by
  simp only [BuildStep.selected, Traced.outcome_bind_eq_ok_iff] at selected
  obtain ⟨_, _, _, _, _, _, _, _, installations, found, resolved⟩ := selected
  obtain ⟨installation, _, isFor⟩ := Resolution.resolve_eq_ok_iff.mp resolved
  exact ⟨⟨installations, found⟩, fun path => isFor.mem_rerunPaths⟩

/-- The version directories that are there when a build step searches for kits are watched. -/
theorem mem_rerunPaths_of_present {step : BuildStep} {disk : Disk} {config : BuildConfig}
    {all : List Candidate} (chosen : step.candidates.outcome = .ok all)
    (selected : (step.selected (step.search disk)).outcome = .ok config) {root : Candidate}
    (inRoots : root ∈ Discovery.distinctRoots disk all)
    (isThere : disk.isDirectory (KitLayout.versionRoot root.path) = .ok true) :
    KitLayout.versionRoot root.path ∈ config.rerunPaths := by
  obtain ⟨⟨installations, found⟩, watched⟩ := found_of_selected selected
  have searchable := Discovery.canBeSearched_of_discover chosen found
  have consulted : (step.search disk).consulted
      = Discovery.presentVersionRoots disk (Discovery.distinctRoots disk all) :=
    (Discovery.isExact_discover chosen searchable).consulted
  apply watched
  rw [List.mem_append, consulted]
  right
  apply List.mem_filter.mpr
  exact ⟨List.mem_map_of_mem inRoots, decide_eq_true isThere⟩

/-- A build step has the same configuration on two hosts that agree at the paths to watch, if the
other host lists the version directories among them, and no root that has none of them has got a
version directory. -/
theorem resolve_of_agreesAt {step : BuildStep} {disk other : Disk} {config : BuildConfig}
    {all : List Candidate} (resolved : (step.resolve disk).outcome = .ok config)
    (chosen : step.candidates.outcome = .ok all)
    (sameWorkingDirectory : other.workingDirectory = disk.workingDirectory)
    (agrees : ∀ path ∈ config.rerunPaths, disk.AgreesAt other path)
    (listed : ∀ root ∈ Discovery.distinctRoots disk all,
      KitLayout.versionRoot root.path ∈ config.rerunPaths → Discovery.CanBeSearched other root)
    (noneNew : ∀ root ∈ Discovery.distinctRoots disk all,
      KitLayout.versionRoot root.path ∉ config.rerunPaths →
        other.isDirectory (KitLayout.versionRoot root.path) = .ok false) :
    (step.resolve other).outcome = .ok config := by
  obtain ⟨selected, present⟩ := resolve_eq_ok_iff.mp resolved
  obtain ⟨⟨installations, found⟩, watched⟩ := found_of_selected selected
  have searchable := Discovery.canBeSearched_of_discover chosen found
  have sameAnswers : ∀ root ∈ Discovery.distinctRoots disk all,
      Discovery.AnswersSame disk other root := by
    intro root inRoots
    by_cases isWatched : KitLayout.versionRoot root.path ∈ config.rerunPaths
    · exact Discovery.answersSame_of_agreesAt (agrees _ isWatched) (searchable root inRoots)
        (listed root inRoots isWatched)
    · rcases searchable root inRoots with missing | ⟨isThere, _⟩
      · exact Discovery.answersSame_of_missing missing (noneNew root inRoots isWatched)
      · exact absurd (mem_rerunPaths_of_present chosen selected inRoots isThere) isWatched
  have sameSearch : step.search disk = step.search other :=
    Discovery.discover_congr chosen sameWorkingDirectory sameAnswers
  rw [sameSearch] at selected
  refine resolve_eq_ok_iff.mpr ⟨selected, fun verifies path member => ?_⟩
  have isWatched := watched path (List.mem_append_left _ member)
  exact (agrees path isWatched).isDirectory.mp (present verifies path member)

/-- A second root that is made, but has no version directory, changes nothing. -/
theorem resolve_of_agreesAt_second_root :
    let disk : Disk :=
      { Disk.empty with
        entries :=
          [["b"], ["b", "Lib"], ["b", "Lib", "10.0"]].map fun names =>
            (⟨names⟩, .directory) }
    let other : Disk := { disk with entries := (⟨["a"]⟩, .directory) :: disk.entries }
    let step : BuildStep :=
      { options := Options.usual
        outDir := Path.ofText "out"
        environment := []
        store := .absent
        standard := [Path.ofText "a", Path.ofText "b"]
        machine := ⟨"linux", "x64", "6.1"⟩
        verify := false
        parts := .fewest }
    ∃ config, (step.resolve disk).outcome = .ok config ∧
      (step.resolve other).outcome = .ok config := by
  intro disk other step
  let all : List Candidate :=
    ["a", "b"].map fun text => ⟨Path.ofText text, "standard_location"⟩
  have chosen : step.candidates.outcome = .ok all := rfl
  have evaluated :
      (step.resolve disk).outcome.toOption.map (fun config =>
        config.rerunPaths.contains (KitLayout.versionRoot (Path.ofText "b")) &&
          config.rerunPaths.all fun path =>
            (disk.isDirectory path = .ok false ∧ other.isDirectory path = .ok false) ∨
              (disk.subdirectories path = .ok ["10.0"] ∧
                other.subdirectories path = .ok ["10.0"]))
        = some true := by decide +kernel
  have roots : ∀ root ∈ Discovery.distinctRoots disk all,
      other.isDirectory (KitLayout.versionRoot root.path) = .ok false ∨
        (root.path = Path.ofText "b" ∧
          other.subdirectories (KitLayout.versionRoot root.path) = .ok ["10.0"]) := by
    decide +kernel
  cases resolved : (step.resolve disk).outcome with
  | error failure =>
      rw [resolved] at evaluated
      cases evaluated
  | ok config =>
      rw [resolved] at evaluated
      simp only [Except.toOption, Option.map_some, Option.some.injEq, Bool.and_eq_true,
        List.contains_iff_mem, List.all_eq_true, decide_eq_true_eq] at evaluated
      obtain ⟨watched, answers⟩ := evaluated
      refine ⟨config, rfl, resolve_of_agreesAt resolved chosen rfl ?_ ?_ ?_⟩
      · intro path member
        rcases answers path member with ⟨missing, otherMissing⟩ | ⟨listed, otherListed⟩
        · exact Disk.agreesAt_of_missing missing otherMissing
        · exact Disk.agreesAt_of_listed listed otherListed
      · intro root inRoots _
        rcases roots root inRoots with missing | ⟨_, listed⟩
        · exact Or.inl missing
        · exact Or.inr ⟨Disk.isDirectory_of_subdirectories listed, _, listed⟩
      · intro root inRoots unwatched
        rcases roots root inRoots with missing | ⟨isSecond, _⟩
        · exact missing
        · rw [isSecond] at unwatched
          exact absurd watched unwatched

end BuildStep

end DriverKit
