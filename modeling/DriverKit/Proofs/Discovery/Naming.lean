import DriverKit.Discovery.Locator
import DriverKit.Proofs.Disk.Listing
import DriverKit.Proofs.KitVersion
import DriverKit.Proofs.Outcome

/-!
# Versions and the directories they were found in

Every installation that a search finds was read from the name of a directory. The version names
that directory in its turn exactly when the name has the form in which versions are written: blanks
around it and zeros before its numbers are lost.
-/

namespace DriverKit.Discovery

/-! ## What a search reads -/

/-- The installation that a directory at a candidate root is, with the name of the directory. -/
def reading? (candidate : Candidate) (name : String) : Option (String × Installation) :=
  if KitLayout.isVersionCandidate name then
    match KitVersion.read name with
    | .ok version => some (name, ⟨candidate.path, version, candidate.method⟩)
    | .error _ => none
  else none

/-- The installations at a candidate root, each with the name of the directory that it is. -/
def readings (disk : Disk) (candidate : Candidate) : List (String × Installation) :=
  let versionRoot := KitLayout.versionRoot candidate.path
  match disk.isDirectory versionRoot, disk.subdirectories versionRoot with
  | .ok true, .ok names => names.filterMap (reading? candidate)
  | _, _ => []

theorem readName_eq_ok {candidate : Candidate} {name : String}
    {installation : Option Installation} (candidateName : KitLayout.isVersionCandidate name = true)
    (found : (readName candidate name).outcome = .ok installation) :
    installation = (reading? candidate name).map Prod.snd := by
  unfold readName at found
  unfold reading?
  rw [if_pos candidateName]
  split at found
  · rename_i version accepted
    rw [accepted]
    cases found
    rfl
  · rename_i refused
    rw [refused]
    cases found
    rfl
  · cases found

theorem readNames_eq_ok {candidate : Candidate} :
    ∀ {names : List String} {installations : List Installation},
      (readNames candidate names).outcome = .ok installations →
        installations = (names.filterMap (reading? candidate)).map Prod.snd
  | [], _, found => by
      cases found
      rfl
  | name :: rest, installations, found => by
      unfold readNames at found
      split at found
      · rename_i candidateName
        simp only [Traced.outcome_bind_eq_ok_iff, Traced.outcome_pure] at found
        obtain ⟨first, firstFound, others, othersFound, result⟩ := found
        have firstReading := readName_eq_ok candidateName firstFound
        have otherReadings := readNames_eq_ok othersFound
        cases result
        rw [firstReading, otherReadings, List.filterMap_cons]
        cases reading? candidate name with
        | none => rfl
        | some reading => rfl
      · rename_i other
        have skipped : reading? candidate name = none := by
          simp [reading?, other]
        rw [readNames_eq_ok found, List.filterMap_cons, skipped]

theorem probe_eq_ok {disk : Disk} {candidate : Candidate} {installations : List Installation}
    (found : (probe disk candidate).found.outcome = .ok installations) :
    installations = (readings disk candidate).map Prod.snd := by
  unfold probe at found
  unfold readings
  simp only at found ⊢
  split at found
  · cases found
  · rename_i absent
    cases found
    simp [absent]
  · rename_i present
    rw [present]
    simp only at found
    split at found
    · cases found
    · rename_i names listed
      rw [listed]
      exact readNames_eq_ok found

theorem probeAll_eq_ok {disk : Disk} :
    ∀ {candidates : List Candidate} {installations : List Installation},
      (probeAll disk candidates).found.outcome = .ok installations →
        installations = (candidates.flatMap (readings disk)).map Prod.snd
  | [], _, found => by
      cases found
      rfl
  | candidate :: rest, installations, found => by
      unfold probeAll at found
      simp only at found
      split at found
      · rename_i failure failed
        rw [failed] at found
        cases found
      · simp only [Traced.outcome_bind_eq_ok_iff, Traced.outcome_pure] at found
        obtain ⟨first, firstFound, others, othersFound, result⟩ := found
        cases result
        rw [probe_eq_ok firstFound, probeAll_eq_ok othersFound, List.flatMap_cons,
          List.map_append]

theorem exists_of_discover {disk : Disk} {environment : Environment} {store : Store}
    {standard : List Path} {installations : List Installation}
    (found : (discover disk environment store standard).found.outcome = .ok installations) :
    ∃ candidates,
      (Candidate.all environment store standard).outcome = .ok candidates ∧
        installations
          = KitVersion.newestFirst Installation.version
              (((distinctRoots disk candidates).flatMap (readings disk)).map Prod.snd) := by
  unfold discover at found
  obtain ⟨roots, begun, afterBegun⟩ := Traced.outcome_bind_eq_ok_iff.mp found
  rw [begun] at afterBegun
  obtain ⟨probed, probedFound, rankedFound⟩ := Traced.outcome_bind_eq_ok_iff.mp afterBegun
  simp only [Traced.outcome_bind_eq_ok_iff, Traced.outcome_map, map_eq_ok_iff] at begun
  obtain ⟨_, _, candidates, all, rfl⟩ := begun
  have probedReadings :
      probed = ((distinctRoots disk candidates).flatMap (readings disk)).map Prod.snd :=
    probeAll_eq_ok probedFound
  refine ⟨candidates, all, ?_⟩
  rw [← probedReadings]
  unfold ranked at rankedFound
  split at rankedFound
  · cases rankedFound
  · rename_i newest others sorted
    cases rankedFound
    exact sorted.symm

/-- What a reading at a candidate root says: its name is one of the listed directories, and its
version was read from that name. -/
theorem listed_of_mem_readings {disk : Disk} {candidate : Candidate} {name : String}
    {installation : Installation} (member : (name, installation) ∈ readings disk candidate) :
    installation.root = candidate.path ∧
      (∃ names,
        disk.subdirectories (KitLayout.versionRoot candidate.path) = .ok names ∧ name ∈ names) ∧
        KitVersion.read name = .ok installation.version := by
  unfold readings at member
  simp only at member
  split at member
  · rename_i names _ listed
    obtain ⟨listedName, inNames, found⟩ := List.mem_filterMap.mp member
    unfold reading? at found
    split at found
    · split at found
      · rename_i version accepted
        cases found
        exact ⟨rfl, ⟨names, listed, inNames⟩, accepted⟩
      · cases found
    · cases found
  · cases member

/-- Every installation that a search finds was read from the name of a directory that is there. The
version of the installation names the same directory exactly when that name has the form in which
versions are written. -/
theorem exists_names_of_discover {locator : Locator} {surroundings : Surroundings}
    {installations : List Installation}
    (found : (locator.discover surroundings).1.outcome = .ok installations) :
    let disk := surroundings.disk
    ∃ candidates, ∃ named : List (String × Installation),
      (locator.candidates surroundings).outcome = .ok candidates ∧
        named.Perm ((distinctRoots disk candidates).flatMap (readings disk)) ∧
        named.map Prod.snd = installations ∧
        ∀ name installation, (name, installation) ∈ named →
          let versionRoot := KitLayout.versionRoot installation.root
          disk.isDirectory (versionRoot.child name) = .ok true ∧
            KitVersion.read name = .ok installation.version ∧
            (versionRoot.child installation.version.text = versionRoot.child name ↔
              KitVersion.IsPlainText name) := by
  intro disk
  obtain ⟨candidates, all, sorted⟩ := exists_of_discover found
  let all := (distinctRoots disk candidates).flatMap (readings disk)
  let named := KitVersion.newestFirst (fun entry : String × Installation => entry.2.version) all
  have permuted : named.Perm all := List.mergeSort_perm _ _
  refine ⟨candidates, named, ‹_›, permuted, ?_, ?_⟩
  · rw [sorted]
    exact List.map_mergeSort fun left _ right _ => rfl
  · intro name installation member
    obtain ⟨candidate, _, inReadings⟩ := List.mem_flatMap.mp (permuted.subset member)
    obtain ⟨root, ⟨names, listed, inNames⟩, accepted⟩ := listed_of_mem_readings inReadings
    obtain ⟨nameStep, isThere⟩ := Disk.isDirectory_child_of_subdirectories listed inNames
    have textStep := KitVersion.isStep_text (KitVersion.isReadable_of_read accepted)
    rw [root]
    refine ⟨isThere, accepted, ?_⟩
    rw [Path.child_inj textStep nameStep]
    exact KitVersion.text_eq_iff_of_read accepted

/-- A directory whose name has a zero too many is found, but its version names no directory. -/
theorem exists_names_of_discover_padded :
    let surroundings : Surroundings :=
      { disk :=
          { Disk.empty with
            entries :=
              [["kit"], ["kit", "Lib"], ["kit", "Lib", "010.0"]].map fun names =>
                (⟨names⟩, .directory) }
        environment := [(Candidate.rootVariable, "kit")]
        store := .absent }
    ∃ installations,
      ((Locator.ofStandard []).discover surroundings).1.outcome = .ok installations ∧
        installations ≠ [] ∧
        (∀ installation ∈ installations,
          surroundings.disk.isDirectory
            ((KitLayout.versionRoot installation.root).child installation.version.text)
            = .ok false) ∧
        ∃ named : List (String × Installation),
          named.map Prod.snd = installations ∧
            ∀ name installation, (name, installation) ∈ named →
              surroundings.disk.isDirectory
                ((KitLayout.versionRoot installation.root).child name) = .ok true := by
  intro surroundings
  have evaluated :
      ((Locator.ofStandard []).discover surroundings).1.outcome.toOption.map
        (fun installations =>
          !installations.isEmpty &&
            installations.all fun installation =>
              surroundings.disk.isDirectory
                ((KitLayout.versionRoot installation.root).child installation.version.text)
                = .ok false)
        = some true := by decide +kernel
  cases found : ((Locator.ofStandard []).discover surroundings).1.outcome with
  | error failure =>
      rw [found] at evaluated
      cases evaluated
  | ok installations =>
      obtain ⟨candidates, named, _, _, same, directories⟩ := exists_names_of_discover found
      rw [found] at evaluated
      simp only [Except.toOption, Option.map_some, Option.some.injEq, Bool.and_eq_true,
        Bool.not_eq_true', List.isEmpty_eq_false_iff, List.all_eq_true, decide_eq_true_eq]
        at evaluated
      exact
        ⟨installations, rfl, evaluated.1, evaluated.2, named, same,
          fun name installation member => (directories name installation member).1⟩

end DriverKit.Discovery
