import DriverKit.Proofs.BuildStep
import DriverKit.Proofs.BuildStep.Stages
import DriverKit.Proofs.Discovery.SkippedRoots
import DriverKit.Proofs.Disk.Rewriting
import DriverKit.Proofs.Resolution.Framework

/-!
# Build steps that are run twice

A build step that has succeeded in a directory that was there is run again on the disk that it has
left. It asks for directories only, so the cache file that it has written does not show, wherever it
lies, and the second run is the first one once more: it gives, says and leaves the same. The one
exception is a search that lists the directory of the cache file along a path that is almost too
long. Then the host cannot be asked for the cache file, and the second run fails.
-/

namespace DriverKit

/-! ## The cache file -/

/-- What a save in a directory that is there has done, and that it does nothing if it is made
again. -/
theorem Cache.exists_of_save {disk : Disk} (tree : disk.IsTree) {outDir : Path}
    {config : BuildConfig} {faults : Disk.ReplacementFaults}
    (isThere : disk.isDirectory outDir = .ok true) {cacheFile : Path}
    (success : (save disk (file outDir usualName) config faults).1.outcome = .ok cacheFile) :
    ∃ directory bytes,
      disk.place outDir = .ok directory ∧
        disk.at? (directory.child usualName) ≠ some .directory ∧
        (save disk (file outDir usualName) config faults).2
          = disk.put (directory.child usualName) (.file bytes) ∧
        ∀ again : Disk.ReplacementFaults, again.Permits →
          save (save disk (file outDir usualName) config faults).2 (file outDir usualName) config
              again
            = save disk (file outDir usualName) config faults := by
  have inOutDir : disk.isDirectory (file outDir usualName).parent = .ok true := by
    rw [parent_file]
    exact isThere
  have replacedWell :
      (disk.replace (file outDir usualName) (.ok (text config).toUTF8) faults).1.outcome
        = .ok () := by
    unfold save at success
    simp only at success
    split at success
    · cases success
    · cases success
    · assumption
  obtain ⟨place, allowed, moved, replaced⟩ := Disk.exists_of_replace inOutDir replacedWell
  obtain ⟨notDirectory, _⟩ := Disk.notDirectory_of_moveTo moved
  obtain ⟨directory, leads, _, rfl⟩ :=
    Disk.exists_of_place_child (by decide) (Disk.place_of_temporaryPlace allowed)
  have left : (save disk (file outDir usualName) config faults).2
      = (disk.replace (file outDir usualName) (.ok (text config).toUTF8) faults).2 := rfl
  refine ⟨directory, (text config).toUTF8, leads, notDirectory, by rw [left, replaced], ?_⟩
  intro again permits
  have once := Disk.replace_again tree inOutDir replacedWell permits
  rw [left]
  unfold save
  rw [once]

/-! ## What a build step asks the disk for -/

theorem Disk.missing_congr {disk other : Disk}
    (same : ∀ path, disk.isDirectory path = other.isDirectory path) :
    ∀ paths : List Path, disk.missing paths = other.missing paths
  | [] => rfl
  | path :: rest => by
      rw [missing, missing, same path, missing_congr same rest]

namespace BuildStep

theorem resolve_congr {step : BuildStep} {disk other : Disk}
    (sameSearch : step.search disk = step.search other)
    (same : ∀ path, disk.isDirectory path = other.isDirectory path) :
    step.resolve disk = step.resolve other := by
  have sameVerify : ∀ config : BuildConfig, config.verify disk = config.verify other := by
    intro config
    unfold BuildConfig.verify BuildConfig.missingDirectories
    rw [Disk.missing_congr same]
  rw [resolve_eq_bind, resolve_eq_bind]
  refine bind_congr fun layout => bind_congr ?_
  rintro ⟨driver, arch, pin⟩
  simp only [goOn, sameSearch, sameVerify]

/-- If no other search is made and the same file is written, a build step is the same. -/
theorem configure_congr {step : BuildStep} {disk other : Disk}
    {faults again : Disk.ReplacementFaults} (samePlan : step.plan other = step.plan disk)
    {config : BuildConfig} {directives : List Directive}
    (planned : (step.plan disk).outcome = .ok (config, directives))
    (sameSave : Cache.save other step.cacheFile config again
      = Cache.save disk step.cacheFile config faults) :
    step.configure other again = step.configure disk faults := by
  unfold configure
  rw [samePlan]
  simp only [planned]
  rw [show Cache.file step.outDir Cache.usualName = step.cacheFile from rfl, sameSave]

/-- A search comes upon the cache file along a path that is too long for the host to be asked for
it. -/
structure MeetsOverlong (step : BuildStep) (disk : Disk) (root : Candidate) : Prop where
  isOutDir : disk.place (KitLayout.versionRoot root.path) = disk.place step.outDir
  overlong : Disk.pathLimit
    < ((KitLayout.versionRoot root.path).child Cache.usualName).text.utf8ByteSize

section

variable {step : BuildStep} {disk : Disk} {directory : Place} {all : List Candidate}
  {installations : List Installation}

/-- Where the cache file can be asked for, a search goes as if it were not there. -/
theorem search_put_file (tree : disk.IsTree) (leads : disk.place step.outDir = .ok directory)
    (notDirectory : disk.at? (directory.child Cache.usualName) ≠ some .directory)
    (chosen : step.candidates.outcome = .ok all)
    (found : (step.search disk).found.outcome = .ok installations)
    (fits : ∀ root ∈ Discovery.distinctRoots disk all, ¬ step.MeetsOverlong disk root)
    (bytes : ByteArray) :
    step.search (disk.put (directory.child Cache.usualName) (.file bytes))
      = step.search disk := by
  have same := Disk.sameDirectories_put_file tree notDirectory bytes
  refine Discovery.discover_congr chosen rfl fun root inRoots => ?_
  refine ⟨(same.isDirectory _).symm, fun isThere => ?_⟩
  rcases Discovery.canBeSearched_of_discover chosen found root inRoots with
    missing | ⟨_, names, listed⟩
  · rw [same.isDirectory, isThere] at missing
    cases missing
  · rw [listed]
    apply Disk.subdirectories_put_file tree notDirectory listed
    intro isOutDir
    by_contra tooLong
    exact fits root inRoots ⟨isOutDir.trans leads.symm, Nat.lt_of_not_le tooLong⟩

/-- Where the cache file cannot be asked for, a search that lists its directory fails. -/
theorem search_put_file_overlong (tree : disk.IsTree)
    (leads : disk.place step.outDir = .ok directory)
    (here : disk.at? directory = some .directory)
    (notDirectory : disk.at? (directory.child Cache.usualName) ≠ some .directory)
    (chosen : step.candidates.outcome = .ok all)
    (found : (step.search disk).found.outcome = .ok installations)
    {root : Candidate} (inRoots : root ∈ Discovery.distinctRoots disk all)
    (meets : step.MeetsOverlong disk root) (bytes : ByteArray) :
    ∃ refusing ∈ Discovery.distinctRoots disk all, ∃ text,
      (step.search (disk.put (directory.child Cache.usualName) (.file bytes))).found.outcome
        = .error (.probe (some (KitLayout.versionRoot refusing.path)) (.fault text)) := by
  have same := Disk.sameDirectories_put_file tree notDirectory bytes
  have wasSearchable := Discovery.canBeSearched_of_discover chosen found
  have rootLeads := meets.isOutDir.trans leads
  have sameRoots : Discovery.distinctRoots
      (disk.put (directory.child Cache.usualName) (.file bytes)) all
        = Discovery.distinctRoots disk all := rfl
  rcases Discovery.canBeSearched_or_exists_first _ (Discovery.distinctRoots
      (disk.put (directory.child Cache.usualName) (.file bytes)) all) with
    searchable | ⟨before, refusing, after, failure, split, searched, refused⟩
  · have isThere := Disk.isDirectory_eq_true_iff.mpr ⟨directory, rootLeads, here⟩
    rcases searchable root inRoots with missing | ⟨_, names, listed⟩
    · rw [← same.isDirectory, isThere] at missing
      cases missing
    · exact absurd listed
        (Disk.subdirectories_put_file_overlong tree notDirectory (by decide) rootLeads
          meets.overlong)
  · have ends := Discovery.outcome_discover_of_refused chosen split searched refused
    have refusingIsRoot : refusing ∈ Discovery.distinctRoots disk all := by
      simp [← sameRoots, split]
    cases refused with
    | unasked answer =>
        rw [← same.isDirectory] at answer
        rcases wasSearchable refusing refusingIsRoot with missing | ⟨isThere, _⟩
        · rw [missing] at answer
          cases answer
        · rw [isThere] at answer
          cases answer
    | unlisted _ answer => exact ⟨refusing, refusingIsRoot, _, ends⟩

end

/-! ## Build steps -/

/-- A build step whose options are accepted fails if its search does. -/
theorem outcome_plan_of_search {step : BuildStep} {disk other : Disk} {config : BuildConfig}
    {failure : Failure} (resolved : (step.resolve disk).outcome = .ok config)
    (ends : (step.search other).found.outcome = .error failure) :
    (step.plan other).outcome = .error failure := by
  rw [resolve_eq_bind, Traced.outcome_bind_eq_ok_iff] at resolved
  obtain ⟨layout, accepted, resolved⟩ := resolved
  obtain ⟨⟨driver, arch, pin⟩, done, _⟩ := Traced.outcome_bind_eq_ok_iff.mp resolved
  have refused : (step.resolve other).outcome = .error failure := by
    rw [resolve_eq_checked accepted, Traced.outcome_bind, done, ok_bind, outcome_goOn, ends,
      error_bind]
  rw [plan, Traced.outcome_bind, refused, error_bind]

/-- What a build step knows and has left on the disk that has succeeded in a directory that was
there. -/
structure SucceedsIn (step : BuildStep) (disk : Disk) (faults : Disk.ReplacementFaults)
    (directory : Place) (bytes : ByteArray) (config : BuildConfig) (all : List Candidate) :
    Prop where
  leads : disk.place step.outDir = .ok directory
  here : disk.at? directory = some .directory
  notDirectory : disk.at? (directory.child Cache.usualName) ≠ some .directory
  resolved : (step.resolve disk).outcome = .ok config
  chosen : step.candidates.outcome = .ok all
  found : ∃ installations, (step.search disk).found.outcome = .ok installations
  left : (step.configure disk faults).disk
    = disk.put (directory.child Cache.usualName) (.file bytes)
  savesAgain : ∀ again : Disk.ReplacementFaults, again.Permits →
    Cache.save (step.configure disk faults).disk step.cacheFile config again
      = Cache.save disk step.cacheFile config faults

variable {step : BuildStep} {disk : Disk} {faults : Disk.ReplacementFaults}

theorem exists_succeedsIn (tree : disk.IsTree) (isThere : disk.isDirectory step.outDir = .ok true)
    {configured : Configured}
    (success : (step.configure disk faults).result.outcome = .ok configured) :
    ∃ directory bytes config all, step.SucceedsIn disk faults directory bytes config all := by
  cases planned : (step.plan disk).outcome with
  | error failure =>
      rw [(configure_of_plan_eq_error planned faults).1] at success
      cases success
  | ok plan =>
      obtain ⟨config, directives⟩ := plan
      have resolved := (resolve_of_plan planned).1
      have selected := (resolve_eq_ok_iff.mp resolved).1
      obtain ⟨installations, found⟩ := (found_of_selected selected).1
      obtain ⟨all, chosen, _⟩ := Discovery.exists_of_discover found
      obtain ⟨ended, _, left⟩ := configure_of_plan_eq_ok planned faults
      rw [success] at ended
      obtain ⟨cacheFile, saved, _⟩ := map_eq_ok_iff.mp ended.symm
      obtain ⟨directory, bytes, leads, notDirectory, changed, savesAgain⟩ :=
        Cache.exists_of_save tree isThere saved
      obtain ⟨place, alsoLeads, here⟩ := Disk.isDirectory_eq_true_iff.mp isThere
      have samePlace : place = directory := Except.ok.inj (alsoLeads.symm.trans leads)
      exact
        ⟨directory, bytes, config, all, leads, samePlace ▸ here, notDirectory, resolved, chosen,
          ⟨installations, found⟩, left.trans changed, fun again permits =>
            left ▸ savesAgain again permits⟩

section

variable {directory : Place} {bytes : ByteArray} {config : BuildConfig} {all : List Candidate}

/-- Where the cache file can be asked for, a second run is the first one once more. -/
theorem SucceedsIn.configure_again
    (succeeds : step.SucceedsIn disk faults directory bytes config all) (tree : disk.IsTree)
    (fits : ∀ root ∈ Discovery.distinctRoots disk all, ¬ step.MeetsOverlong disk root)
    {again : Disk.ReplacementFaults} (permits : again.Permits) :
    step.configure (step.configure disk faults).disk again = step.configure disk faults := by
  obtain ⟨installations, found⟩ := succeeds.found
  have same := Disk.sameDirectories_put_file tree succeeds.notDirectory bytes
  have sameSearch := search_put_file tree succeeds.leads succeeds.notDirectory succeeds.chosen found
    fits bytes
  have sameResolve := resolve_congr sameSearch fun path => (same.isDirectory path).symm
  have samePlan : step.plan (step.configure disk faults).disk = step.plan disk := by
    rw [succeeds.left, plan, plan, sameResolve]
  exact configure_congr samePlan (plan_of_resolve succeeds.resolved)
    (succeeds.savesAgain again permits)

/-- Where it cannot, a second run fails, and it changes nothing more. -/
theorem SucceedsIn.configure_again_overlong
    (succeeds : step.SucceedsIn disk faults directory bytes config all) (tree : disk.IsTree)
    {root : Candidate} (inRoots : root ∈ Discovery.distinctRoots disk all)
    (meets : step.MeetsOverlong disk root) (again : Disk.ReplacementFaults) :
    let second := step.configure (step.configure disk faults).disk again
    (∃ refusing ∈ Discovery.distinctRoots disk all, ∃ text, second.result.outcome
        = .error (.probe (some (KitLayout.versionRoot refusing.path)) (.fault text))) ∧
      second.stream = "" ∧ second.disk = (step.configure disk faults).disk := by
  obtain ⟨installations, found⟩ := succeeds.found
  obtain ⟨refusing, isRoot, text, ends⟩ := search_put_file_overlong tree succeeds.leads
    succeeds.here succeeds.notDirectory succeeds.chosen found inRoots meets bytes
  rw [← succeeds.left] at ends
  have refused := outcome_plan_of_search succeeds.resolved ends
  obtain ⟨failed, stream, unchanged⟩ := configure_of_plan_eq_error refused again
  exact ⟨⟨refusing, isRoot, text, failed⟩, stream, unchanged⟩

end

/-! ## Build steps that succeed -/

/-- A build step with the built-in layout and no pin has a configuration when its search finds
something, as long as it is not to verify that. -/
theorem exists_resolve_of_search {driver : DriverConfig} {arch : Arch}
    {installations : List Installation}
    (accepted : step.options.kitLayout step.parts = .ok (.usual step.parts))
    (driverMade : step.options.driverConfig = .ok driver)
    (archMade : (step.options.target step.machine).outcome = .ok arch)
    (unpinned : step.options.pin = .ok none)
    (found : (step.search disk).found.outcome = .ok installations)
    (notVerified : step.verify = false) :
    ∃ config, (step.resolve disk).outcome = .ok config := by
  have isSelected : ∃ installation, Installation.select installations none = .ok installation := by
    cases installations with
    | nil => exact absurd rfl (ne_nil_of_search found)
    | cons first rest => exact ⟨_, rfl⟩
  obtain ⟨config, made⟩ := Resolution.exists_resolve_usual_iff.mpr isSelected
  refine ⟨config, resolve_eq_ok_iff.mpr ⟨?_, by simp [notVerified]⟩⟩
  simp only [selected, Traced.outcome_bind_eq_ok_iff, Traced.outcome_lift]
  exact ⟨_, accepted, _, driverMade, _, archMade, _, unpinned, _, found, made⟩

/-- A build step that has a configuration succeeds when its cache file can be replaced. -/
theorem exists_configure_of_resolve {config : BuildConfig} {place : Place}
    (resolved : (step.resolve disk).outcome = .ok config)
    (isThere : disk.isDirectory step.outDir = .ok true)
    (allowed : disk.temporaryPlace step.cacheFile = .ok place)
    (free : disk.at? place = none) (permits : faults.Permits) :
    ∃ configured, (step.configure disk faults).result.outcome = .ok configured := by
  have inOutDir : disk.isDirectory step.cacheFile.parent = .ok true := by
    rw [cacheFile, Cache.parent_file]
    exact isThere
  have isName : step.cacheFile.name = Cache.usualName := by
    simp [cacheFile, Cache.file, Path.name, Path.steps_child Cache.isStep_usualName]
  have named : (step.cacheFile.name == "" || step.cacheFile.name == "..") = false := by
    rw [isName]
    rfl
  have moved : disk.moveTo step.cacheFile place (Cache.text config).toUTF8
      = .ok (disk.put place (.file (Cache.text config).toUTF8)) := by
    simp [Disk.moveTo, named, free]
  have replaced := Disk.replace_of_permits inOutDir allowed moved permits
  have saved : (Cache.save disk step.cacheFile config faults).1.outcome = .ok step.cacheFile := by
    unfold Cache.save
    rw [replaced]
    rfl
  obtain ⟨ended, _⟩ := configure_of_plan_eq_ok (plan_of_resolve resolved) faults
  rw [saved] at ended
  exact ⟨_, ended⟩

/-! ## A build step in a kit -/

/-- A disk with the directories of one kit. -/
def kitDisk : Disk :=
  { Disk.empty with
    entries :=
      [["k"], ["k", "Lib"], ["k", "Lib", "10.0"]].map fun names =>
        (⟨names⟩, .directory) }

theorem isTree_kitDisk : kitDisk.IsTree := Disk.isTree_of_entries (by decide)

/-- A build step whose output directory is the version directory of that kit. -/
def stepInKit (root : Path) : BuildStep where
  options := Options.usual
  outDir := Path.ofText "k/Lib"
  environment := []
  store := .absent
  standard := [root]
  machine := ⟨"linux", "x64", "6.1"⟩
  verify := false
  parts := .fewest

theorem accepts_usual :
    Options.usual.kitLayout .fewest = .ok (.usual .fewest) ∧
      Options.usual.driverConfig = .ok (.kmdf 33) ∧
      (Options.usual.target ⟨"linux", "x64", "6.1"⟩).outcome = .ok .x64 ∧
        Options.usual.pin = .ok none :=
  ⟨rfl, rfl, rfl, rfl⟩

theorem candidates_stepInKit (root : Path) :
    (stepInKit root).candidates.outcome = .ok [⟨root, "standard_location"⟩] := rfl

theorem isDirectory_outDir_stepInKit (root : Path) :
    kitDisk.isDirectory (stepInKit root).outDir = .ok true := by
  show kitDisk.isDirectory (Path.ofText "k/Lib") = .ok true
  decide +kernel

theorem place_versionRoot_kitDisk {root : Path}
    (leads : kitDisk.place root = .ok ⟨["k"]⟩)
    (short : ((KitLayout.versionRoot root).child "10.0").text.utf8ByteSize ≤ Disk.pathLimit) :
    kitDisk.place (KitLayout.versionRoot root) = .ok ⟨["k", "Lib"]⟩ := by
  have versionRootShort : (KitLayout.versionRoot root).text.utf8ByteSize ≤ Disk.pathLimit :=
    (Path.utf8ByteSize_text_le_child (by decide)).trans short
  exact Disk.place_child leads (by decide) (by decide) versionRootShort

theorem exists_found_stepInKit {root : Path} (leads : kitDisk.place root = .ok ⟨["k"]⟩)
    (short : ((KitLayout.versionRoot root).child "10.0").text.utf8ByteSize ≤ Disk.pathLimit) :
    ∃ installations, ((stepInKit root).search kitDisk).found.outcome = .ok installations := by
  have versionsFound := place_versionRoot_kitDisk leads short
  have isNames : kitDisk.names ⟨["k", "Lib"]⟩ = ["10.0"] := by decide +kernel
  have listed : kitDisk.subdirectories (KitLayout.versionRoot root)
      = .ok (kitDisk.directoryNames ⟨["k", "Lib"]⟩) := by
    refine Disk.subdirectories_eq_ok_iff.mpr ⟨_, versionsFound, by decide, rfl, ?_, rfl⟩
    rw [isNames]
    simpa using short
  have searchable : ∀ candidate ∈ Discovery.distinctRoots kitDisk [⟨root, "standard_location"⟩],
      Discovery.CanBeSearched kitDisk candidate := by
    intro candidate inRoots
    rw [List.mem_singleton.mp inRoots]
    exact Or.inr ⟨Disk.isDirectory_of_subdirectories listed, _, listed⟩
  have within : kitDisk.HasSubdirectory (KitLayout.versionRoot root) "10.0" :=
    ⟨by decide, _, versionsFound, by decide, by decide⟩
  have isVersion : KitVersion.read "10.0" = .ok ⟨[10, 0]⟩ := rfl
  have isOn : Discovery.Finding.IsOn kitDisk
      (Discovery.distinctRoots kitDisk [⟨root, "standard_location"⟩])
      ⟨⟨root, "standard_location"⟩, "10.0", ⟨[10, 0]⟩⟩ :=
    ⟨List.mem_singleton_self _, within, KitVersion.lower_ne_of_read isVersion, isVersion⟩
  obtain ⟨installations, found, _⟩ :=
    Discovery.exists_of_isOn (candidates_stepInKit root) searchable isOn
  exact ⟨installations, found⟩

theorem temporaryPlace_cacheFile_stepInKit (root : Path) :
    kitDisk.temporaryPlace (stepInKit root).cacheFile
      = .ok ⟨["k", "Lib", Cache.usualName]⟩ := by
  have leads : kitDisk.place ((Path.ofText "k/Lib").child Cache.usualName)
      = .ok ⟨["k", "Lib", Cache.usualName]⟩ := by
    decide +kernel
  have short :
      ((Path.ofText "k/Lib").child Cache.usualName).name.utf8ByteSize + Disk.temporaryExcess
        ≤ Disk.nameLimit := by
    decide +kernel
  exact Disk.temporaryPlace_eq_ok_iff.mpr ⟨short, leads⟩

/-- The build step succeeds for every root that leads to the kit, along a path that need not be
short enough for the cache file. -/
theorem exists_configure_stepInKit {root : Path} (leads : kitDisk.place root = .ok ⟨["k"]⟩)
    (short : ((KitLayout.versionRoot root).child "10.0").text.utf8ByteSize ≤ Disk.pathLimit) :
    ∃ configured, ((stepInKit root).configure kitDisk .none).result.outcome = .ok configured := by
  obtain ⟨accepted, driverMade, archMade, unpinned⟩ := accepts_usual
  obtain ⟨installations, found⟩ := exists_found_stepInKit leads short
  have resolves : ∃ config, ((stepInKit root).resolve kitDisk).outcome = .ok config :=
    exists_resolve_of_search accepted driverMade archMade unpinned found rfl
  obtain ⟨config, resolved⟩ := resolves
  exact exists_configure_of_resolve resolved (isDirectory_outDir_stepInKit root)
    (temporaryPlace_cacheFile_stepInKit root) (by decide) ⟨rfl, rfl, rfl⟩

/-- Along a path that is too long for the cache file the build step succeeds only once. -/
theorem exists_failure_stepInKit {root : Path} (leads : kitDisk.place root = .ok ⟨["k"]⟩)
    (short : ((KitLayout.versionRoot root).child "10.0").text.utf8ByteSize ≤ Disk.pathLimit)
    (overlong : Disk.pathLimit
      < ((KitLayout.versionRoot root).child Cache.usualName).text.utf8ByteSize) :
    ∃ failure,
      ((stepInKit root).configure ((stepInKit root).configure kitDisk .none).disk
        .none).result.outcome = .error failure := by
  have outDirLeads : kitDisk.place (Path.ofText "k/Lib") = .ok ⟨["k", "Lib"]⟩ := by
    decide +kernel
  have meets : (stepInKit root).MeetsOverlong kitDisk ⟨root, "standard_location"⟩ :=
    ⟨(place_versionRoot_kitDisk leads short).trans outDirLeads.symm, overlong⟩
  obtain ⟨configured, success⟩ := exists_configure_stepInKit leads short
  obtain ⟨_, _, _, all, succeeds⟩ :=
    exists_succeedsIn isTree_kitDisk (isDirectory_outDir_stepInKit root) success
  have isAll := succeeds.chosen
  rw [candidates_stepInKit] at isAll
  cases isAll
  obtain ⟨⟨_, _, _, failed⟩, _⟩ := succeeds.configure_again_overlong isTree_kitDisk
    (List.mem_singleton_self _) meets .none
  exact ⟨_, failed⟩

/-- The bytes of a path to something in the version directory of the kit, by a way round. -/
theorem size_in_versionRoot_wayRound (count : Nat) {name : String}
    (valid : isStep name.toList = true) :
    ((KitLayout.versionRoot (Path.wayRound "k" (by decide) count)).child name).text.utf8ByteSize
      = count * 5 + 6 + name.utf8ByteSize := by
  have versions : isStep "Lib".toList = true := by decide
  rw [Path.utf8ByteSize_text_child _ valid, KitLayout.versionRoot, Path.anchor_child versions,
    Path.steps_child versions, Path.bytesOf_append, Path.bytesOf_wayRound]
  show 0 + (count * 5 + 2 + 4) + _ = _
  omega

/-! ## Build steps that are run twice -/

/-- A build step that has succeeded in a directory that was there can be run again, on a host that
refuses nothing, and is the same again. Only if its search comes upon the cache file along a path
that is too long for the host, it fails the second time, and changes nothing more. -/
theorem configure_twice (tree : disk.IsTree) (isThere : disk.isDirectory step.outDir = .ok true)
    {configured : Configured}
    (success : (step.configure disk faults).result.outcome = .ok configured) :
    ∃ all, step.candidates.outcome = .ok all ∧
      ∀ again : Disk.ReplacementFaults, again.Permits →
        let roots := Discovery.distinctRoots disk all
        let first := step.configure disk faults
        let second := step.configure first.disk again
        ((∀ root ∈ roots, ¬ step.MeetsOverlong disk root) → second = first) ∧
          ((∃ root ∈ roots, step.MeetsOverlong disk root) →
            (∃ root ∈ roots, ∃ text, second.result.outcome
                = .error (.probe (some (KitLayout.versionRoot root.path)) (.fault text))) ∧
              second.stream = "" ∧ second.disk = first.disk) := by
  obtain ⟨directory, bytes, config, all, succeeds⟩ := exists_succeedsIn tree isThere success
  refine ⟨all, succeeds.chosen, fun again permits => ⟨fun fits => ?_, ?_⟩⟩
  · exact succeeds.configure_again tree fits permits
  · rintro ⟨root, inRoots, meets⟩
    exact succeeds.configure_again_overlong tree inRoots meets again

/-- The path to the kit is short enough. -/
theorem configure_twice_in_kit :
    let step := stepInKit (Path.ofText "k")
    let first := step.configure kitDisk .none
    (∃ configured, first.result.outcome = .ok configured) ∧
      step.configure first.disk .none = first := by
  have leads : kitDisk.place (Path.ofText "k") = .ok ⟨["k"]⟩ := by decide +kernel
  have fits : ((KitLayout.versionRoot (Path.ofText "k")).child Cache.usualName).text.utf8ByteSize
      ≤ Disk.pathLimit := by
    decide +kernel
  obtain ⟨configured, success⟩ := exists_configure_stepInKit leads (by decide +kernel)
  obtain ⟨all, chosen, runs⟩ :=
    configure_twice isTree_kitDisk (isDirectory_outDir_stepInKit (Path.ofText "k")) success
  obtain ⟨same, _⟩ := runs .none ⟨rfl, rfl, rfl⟩
  rw [candidates_stepInKit] at chosen
  cases chosen
  refine ⟨⟨configured, success⟩, same fun root inRoots meets => ?_⟩
  rw [List.mem_singleton.mp inRoots] at meets
  exact absurd meets.overlong (Nat.not_lt.mpr fits)

/-- By a way of 4085 bytes to the version directory the kit can be found, but the cache file in
that directory cannot be asked for. -/
theorem configure_twice_way_round :
    let step := stepInKit (Path.wayRound "k" (by decide) 816)
    let first := step.configure kitDisk .none
    kitDisk.IsTree ∧ kitDisk.isDirectory step.outDir = .ok true ∧
      (∃ configured, first.result.outcome = .ok configured) ∧
        ∃ failure, (step.configure first.disk .none).result.outcome = .error failure := by
  have valid : isStep "k".toList = true := by decide
  have short : 816 * ("k".utf8ByteSize + 4) + "k".utf8ByteSize ≤ Disk.pathLimit := by decide
  have leads : kitDisk.place (Path.wayRound "k" valid 816) = .ok ⟨["k"]⟩ :=
    Disk.place_wayRound (by decide) valid (by decide) short
  have kitShort : 816 * 5 + 6 + "10.0".utf8ByteSize ≤ Disk.pathLimit := by decide
  have cacheOverlong : Disk.pathLimit < 816 * 5 + 6 + Cache.usualName.utf8ByteSize := by decide
  rw [← size_in_versionRoot_wayRound 816 (by decide)] at kitShort
  rw [← size_in_versionRoot_wayRound 816 Cache.isStep_usualName] at cacheOverlong
  exact ⟨isTree_kitDisk, isDirectory_outDir_stepInKit _, exists_configure_stepInKit leads kitShort,
    exists_failure_stepInKit leads kitShort cacheOverlong⟩

end BuildStep

end DriverKit
