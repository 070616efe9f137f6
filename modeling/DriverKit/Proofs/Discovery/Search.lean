import DriverKit.Proofs.Discovery.Findings

/-!
# The course of a search

A search goes through the roots one after the other, up to the first at which the host refuses to
answer. If it comes to the end, what it returns, what it warns of and what it has read are said by
the disk alone: its findings, the directories that are passed over, and the version directories
that are there. Nothing depends on the order in which the host lists a directory.
-/

namespace DriverKit.Discovery

/-! ## Directories that are passed over -/

/-- A directory at a candidate root whose name is neither a version nor that of the frameworks. -/
structure IsPassedOver (disk : Disk) (roots : List Candidate) (root : Candidate)
    (name : String) : Prop where
  isRoot : root ∈ roots
  within : disk.HasSubdirectory (KitLayout.versionRoot root.path) name
  notFrameworks : Text.lower name ≠ "wdf"
  unread : ∀ version, KitVersion.read name ≠ .ok version

/-- What is said of a directory that is passed over. -/
def passedOverWarning (root : Candidate) (name : String) : Log.Entry :=
  ⟨.warning, .locator,
    "Skipping unrecognized kit directory: " ++ ((KitLayout.versionRoot root.path).child name).text⟩

/-- Tells whether directories of a name are passed over. -/
def isPassedOver (name : String) : Bool :=
  KitLayout.isVersionCandidate name && !(KitVersion.read name).isOk

/-- The directories at a candidate root that are passed over. -/
def passedOverAt (disk : Disk) (candidate : Candidate) : List (Candidate × String) :=
  ((namesAt disk candidate).filter isPassedOver).map (Prod.mk candidate)

theorem isPassedOver_iff {name : String} :
    isPassedOver name = true ↔
      Text.lower name ≠ "wdf" ∧ ∀ version, KitVersion.read name ≠ .ok version := by
  rw [isPassedOver, Bool.and_eq_true, isVersionCandidate_iff]
  cases accepted : KitVersion.read name with
  | error failure => simp [Except.isOk, Except.toBool]
  | ok version => simp [Except.isOk, Except.toBool]

theorem mem_passedOver_iff {disk : Disk} {roots : List Candidate} {root : Candidate}
    {name : String} (searchable : ∀ candidate ∈ roots, CanBeSearched disk candidate) :
    (root, name) ∈ roots.flatMap (passedOverAt disk) ↔ IsPassedOver disk roots root name := by
  simp only [List.mem_flatMap, passedOverAt, List.mem_map, List.mem_filter, isPassedOver_iff,
    Prod.mk.injEq]
  constructor
  · rintro ⟨candidate, inRoots, listed, ⟨inNames, notFrameworks, unread⟩, rfl, rfl⟩
    have within := (mem_namesAt_iff (searchable candidate inRoots)).mp inNames
    exact ⟨inRoots, within, notFrameworks, unread⟩
  · rintro ⟨inRoots, within, notFrameworks, unread⟩
    have inNames := (mem_namesAt_iff (searchable root inRoots)).mpr within
    exact ⟨root, inRoots, name, ⟨inNames, notFrameworks, unread⟩, rfl, rfl⟩

theorem nodup_passedOver {disk : Disk} {roots : List Candidate} (nodup : roots.Nodup)
    (searchable : ∀ candidate ∈ roots, CanBeSearched disk candidate) :
    (roots.flatMap (passedOverAt disk)).Nodup := by
  rw [List.nodup_flatMap]
  constructor
  · intro candidate inRoots
    have namesOnce : (namesAt disk candidate).Nodup :=
      (pairwise_namesAt (searchable candidate inRoots)).imp String.ne_of_lt
    exact (namesOnce.filter _).map fun name other same => congrArg Prod.snd same
  · refine nodup.imp fun {candidate other} different => ?_
    intro entry atFirst atOther
    obtain ⟨name, _, rfl⟩ := List.mem_map.mp atFirst
    obtain ⟨otherName, _, same⟩ := List.mem_map.mp atOther
    exact different (congrArg Prod.fst same).symm

/-! ## Names -/

theorem exists_of_readName {candidate : Candidate} {name : String}
    (short : name.toList.length ≤ Text.digitLimit) :
    ∃ installation, (readName candidate name).outcome = .ok installation ∧
      (readName candidate name).warnings
        = if (KitVersion.read name).isOk then [] else [passedOverWarning candidate name] := by
  unfold readName
  rcases KitVersion.read_of_length_le short with ⟨version, accepted⟩ | ⟨kept, refused⟩
  · rw [accepted]
    exact ⟨_, rfl, rfl⟩
  · rw [refused]
    exact ⟨_, rfl, rfl⟩

theorem exists_of_readNames {candidate : Candidate} :
    ∀ {names : List String}, (∀ name ∈ names, name.toList.length ≤ Text.digitLimit) →
      ∃ installations, (readNames candidate names).outcome = .ok installations ∧
        (readNames candidate names).warnings
          = (names.filter isPassedOver).map (passedOverWarning candidate)
  | [], _ => ⟨[], rfl, rfl⟩
  | name :: rest, short => by
      obtain ⟨others, othersFound, otherWarnings⟩ :=
        exists_of_readNames fun other member => short other (List.mem_cons_of_mem name member)
      unfold readNames
      by_cases candidateName : KitLayout.isVersionCandidate name = true
      · obtain ⟨installation, found, warned⟩ := exists_of_readName (short name List.mem_cons_self)
        rw [if_pos candidateName]
        refine ⟨installation.toList ++ others, ?_, ?_⟩
        · rw [Traced.outcome_bind, found, ok_bind, Traced.outcome_bind, othersFound]
          rfl
        · rw [Traced.warnings_bind found, Traced.warnings_bind othersFound, warned, otherWarnings]
          cases accepted : (KitVersion.read name).isOk with
          | true => simp [isPassedOver, accepted]
          | false => simp [isPassedOver, candidateName, accepted]
      · rw [if_neg candidateName]
        refine ⟨others, othersFound, ?_⟩
        rw [otherWarnings]
        simp [isPassedOver, candidateName]

/-! ## Roots -/

/-- The version directories of roots that are there. -/
def presentVersionRoots (disk : Disk) (roots : List Candidate) : List Path :=
  (roots.map fun root => KitLayout.versionRoot root.path).filter fun path =>
    disk.isDirectory path = .ok true

/-- A discovery has come to its end: it holds what was found at some roots. -/
structure IsFinished (disk : Disk) (roots : List Candidate) (discovery : Discovery) : Prop where
  found : discovery.found.outcome = .ok ((roots.flatMap (readings disk)).map Prod.snd)
  warnings :
    discovery.found.warnings
      = (roots.flatMap (passedOverAt disk)).map fun entry => passedOverWarning entry.1 entry.2
  consulted : discovery.consulted = presentVersionRoots disk roots

/-- The name of a directory that is listed is too short to have a number with too many digits. -/
theorem length_le_of_mem_subdirectories {disk : Disk} {path : Path} {names : List String}
    (listed : disk.subdirectories path = .ok names) {name : String} (member : name ∈ names) :
    name.toList.length ≤ Text.digitLimit := by
  have named := ((Disk.mem_subdirectories_iff listed).mp member).1
  simp only [Disk.isName, Bool.and_eq_true, decide_eq_true_eq] at named
  calc name.toList.length
      ≤ name.utf8ByteSize := Text.length_le_utf8ByteSize name
    _ ≤ Disk.nameLimit := named.2
    _ ≤ Text.digitLimit := by decide

theorem isFinished_probe {disk : Disk} {candidate : Candidate}
    (searchable : CanBeSearched disk candidate) :
    IsFinished disk [candidate] (probe disk candidate) := by
  rcases searchable with missing | ⟨isThere, names, listed⟩
  · constructor
    · simp [probe, missing, readings]
    · simp only [probe, missing]
      simp [passedOverAt, namesAt_of_missing missing]
    · simp [probe, missing, presentVersionRoots]
  · have short : ∀ name ∈ names, name.toList.length ≤ Text.digitLimit := fun name member =>
      length_le_of_mem_subdirectories listed member
    obtain ⟨installations, found, warned⟩ := @exists_of_readNames candidate names short
    constructor
    · simp only [probe, isThere, listed, found, readings, List.flatMap_singleton]
      rw [readNames_eq_ok found]
    · simp only [probe, isThere, listed, warned, passedOverAt, namesAt_of_listed isThere listed,
        List.flatMap_singleton, List.map_map]
      rfl
    · simp [probe, isThere, presentVersionRoots]

/-- A search of roots that can all be searched comes to its end. -/
theorem isFinished_probeAll {disk : Disk} :
    ∀ {roots : List Candidate}, (∀ candidate ∈ roots, CanBeSearched disk candidate) →
      IsFinished disk roots (probeAll disk roots)
  | [], _ => ⟨rfl, rfl, rfl⟩
  | candidate :: rest, searchable => by
      have first := isFinished_probe (searchable candidate List.mem_cons_self)
      have others := isFinished_probeAll fun other member =>
        searchable other (List.mem_cons_of_mem candidate member)
      have goesOn : probeAll disk (candidate :: rest)
          = {
              found := do return (← (probe disk candidate).found) ++ (← (probeAll disk rest).found)
              consulted := (probe disk candidate).consulted ++ (probeAll disk rest).consulted
            } := by
        rw [probeAll]
        simp only [first.found]
      rw [goesOn]
      constructor
      · simp [first.found, others.found]
      · simp [Traced.warnings_bind first.found, first.warnings,
          others.warnings]
      · simp only [first.consulted, others.consulted, presentVersionRoots, List.map_cons,
          List.map_nil, ← List.filter_append, List.singleton_append]

/-! ## Refusals -/

/-- The failure with which a search ends at a root for which the host refuses to answer. Only a
refused listing is reported as one of the search; that the host cannot be asked at all is not. -/
inductive IsRefusedAt (disk : Disk) (candidate : Candidate) : Failure → Prop where
  | unasked {fault : HostFault}
      (answer : disk.isDirectory (KitLayout.versionRoot candidate.path) = .error fault) :
      IsRefusedAt disk candidate (.host fault)
  | unlisted {fault : HostFault}
      (isThere : disk.isDirectory (KitLayout.versionRoot candidate.path) = .ok true)
      (answer : disk.subdirectories (KitLayout.versionRoot candidate.path) = .error fault) :
      IsRefusedAt disk candidate
        (.probe (some (KitLayout.versionRoot candidate.path)) (.fault fault.message))

theorem canBeSearched_or_isRefusedAt (disk : Disk) (candidate : Candidate) :
    CanBeSearched disk candidate ∨ ∃ failure, IsRefusedAt disk candidate failure := by
  cases asked : disk.isDirectory (KitLayout.versionRoot candidate.path) with
  | error fault => exact Or.inr ⟨_, .unasked asked⟩
  | ok isThere =>
      cases isThere with
      | false => exact Or.inl (Or.inl asked)
      | true =>
          cases listed : disk.subdirectories (KitLayout.versionRoot candidate.path) with
          | error fault => exact Or.inr ⟨_, .unlisted asked listed⟩
          | ok names => exact Or.inl (Or.inr ⟨asked, names, listed⟩)

theorem outcome_probe_of_refused {disk : Disk} {candidate : Candidate} {failure : Failure}
    (refused : IsRefusedAt disk candidate failure) :
    (probe disk candidate).found.outcome = .error failure := by
  cases refused with
  | unasked answer => simp only [probe, answer, Traced.fail]
  | unlisted isThere answer => simp only [probe, isThere, answer, Traced.fail]

/-- A search ends at the first root for which the host refuses to answer. -/
theorem outcome_probeAll_of_refused {disk : Disk} {refusing : Candidate} {failure : Failure}
    (refused : IsRefusedAt disk refusing failure) (after : List Candidate) :
    ∀ {before : List Candidate}, (∀ candidate ∈ before, CanBeSearched disk candidate) →
      (probeAll disk (before ++ refusing :: after)).found.outcome = .error failure
  | [], _ => by
      have ends := outcome_probe_of_refused refused
      simp only [List.nil_append, probeAll, ends]
  | candidate :: rest, searchable => by
      have first := isFinished_probe (searchable candidate List.mem_cons_self)
      have others := outcome_probeAll_of_refused refused after fun other member =>
        searchable other (List.mem_cons_of_mem candidate member)
      simp only [List.cons_append, probeAll, first.found, Traced.outcome_bind, ok_bind, others,
        error_bind]

/-- If a search comes to its end, every root can be searched. -/
theorem canBeSearched_of_probeAll {disk : Disk} :
    ∀ {roots : List Candidate} {installations : List Installation},
      (probeAll disk roots).found.outcome = .ok installations →
        ∀ candidate ∈ roots, CanBeSearched disk candidate
  | [], _, _ => by simp
  | candidate :: rest, installations, found => by
      rcases canBeSearched_or_isRefusedAt disk candidate with searchable | ⟨failure, refused⟩
      · have first := isFinished_probe searchable
        simp only [probeAll, first.found, Traced.outcome_bind_eq_ok_iff] at found
        obtain ⟨_, _, others, othersFound, _⟩ := found
        intro other member
        rcases List.mem_cons.mp member with here | later
        · exact here ▸ searchable
        · exact canBeSearched_of_probeAll othersFound other later
      · have ends := @outcome_probeAll_of_refused _ _ _ refused rest [] (by simp)
        rw [List.nil_append, found] at ends
        cases ends

/-! ## What a search depends on -/

/-- Two hosts give the same answers when a root is searched. -/
structure AnswersSame (disk other : Disk) (candidate : Candidate) : Prop where
  isDirectory :
    disk.isDirectory (KitLayout.versionRoot candidate.path)
      = other.isDirectory (KitLayout.versionRoot candidate.path)
  subdirectories :
    disk.isDirectory (KitLayout.versionRoot candidate.path) = .ok true →
      disk.subdirectories (KitLayout.versionRoot candidate.path)
        = other.subdirectories (KitLayout.versionRoot candidate.path)

theorem answersSame_of_missing {disk other : Disk} {candidate : Candidate}
    (missing : disk.isDirectory (KitLayout.versionRoot candidate.path) = .ok false)
    (otherMissing : other.isDirectory (KitLayout.versionRoot candidate.path) = .ok false) :
    AnswersSame disk other candidate := by
  refine ⟨missing.trans otherMissing.symm, fun isThere => ?_⟩
  rw [missing] at isThere
  cases isThere

theorem probe_congr {disk other : Disk} {candidate : Candidate}
    (same : AnswersSame disk other candidate) : probe disk candidate = probe other candidate := by
  cases asked : disk.isDirectory (KitLayout.versionRoot candidate.path) with
  | error fault =>
      have otherAsked := same.isDirectory.symm.trans asked
      simp only [probe, asked, otherAsked]
  | ok isThere =>
      have otherAsked := same.isDirectory.symm.trans asked
      cases isThere with
      | false => simp only [probe, asked, otherAsked]
      | true => simp only [probe, asked, otherAsked, same.subdirectories asked]

theorem probeAll_congr {disk other : Disk} :
    ∀ {roots : List Candidate}, (∀ candidate ∈ roots, AnswersSame disk other candidate) →
      probeAll disk roots = probeAll other roots
  | [], _ => rfl
  | candidate :: rest, same => by
      have others := probeAll_congr fun later member =>
        same later (List.mem_cons_of_mem candidate member)
      rw [probeAll, probeAll, probe_congr (same candidate List.mem_cons_self), others]

/-! ## The roots of a search -/

/-- The roots that a search goes through. -/
def roots (disk : Disk) (environment : Environment) (store : Store) (standard : List Path) :
    Traced (List Candidate) := do
  Traced.say .info .locator "Starting kit discovery"
  distinctRoots disk <$> Candidate.all environment store standard

section

variable {disk other : Disk} {environment : Environment} {store : Store} {standard : List Path}
  {all : List Candidate}

theorem outcome_roots (disk : Disk)
    (chosen : (Candidate.all environment store standard).outcome = .ok all) :
    (roots disk environment store standard).outcome = .ok (distinctRoots disk all) := by
  simp only [roots, Traced.outcome_bind, Traced.outcome_say, ok_bind, Traced.outcome_map, chosen]
  rfl

theorem warnings_roots (disk : Disk) (environment : Environment) (store : Store)
    (standard : List Path) :
    (roots disk environment store standard).warnings
      = (Candidate.all environment store standard).warnings := by
  rw [roots, Traced.warnings_bind (Traced.outcome_say _ _ _), Traced.warnings_info,
    Traced.warnings_map, List.nil_append]

theorem discover_of_candidates
    (chosen : (Candidate.all environment store standard).outcome = .ok all) :
    discover disk environment store standard
      = { found := do
            let candidates ← roots disk environment store standard
            ranked candidates (← (probeAll disk (distinctRoots disk all)).found)
          consulted := (probeAll disk (distinctRoots disk all)).consulted } := by
  have same : discover disk environment store standard
      = { found := do
            let candidates ← roots disk environment store standard
            let begun := (roots disk environment store standard).outcome.toOption.getD []
            ranked candidates (← (probeAll disk begun).found)
          consulted :=
            (probeAll disk
              ((roots disk environment store standard).outcome.toOption.getD [])).consulted } := rfl
  rw [same, outcome_roots disk chosen]
  rfl

/-- Where the working directory is the same, a search depends on the disk only through what the host
answers at the roots. -/
theorem discover_congr
    (chosen : (Candidate.all environment store standard).outcome = .ok all)
    (sameWorkingDirectory : other.workingDirectory = disk.workingDirectory)
    (same : ∀ candidate ∈ distinctRoots disk all, AnswersSame disk other candidate) :
    discover disk environment store standard = discover other environment store standard := by
  have sameRoots := distinctRoots_congr sameWorkingDirectory
  rw [discover_of_candidates chosen, discover_of_candidates chosen, roots, roots, sameRoots,
    probeAll_congr same]

/-! ## Searches -/

theorem outcome_ranked (roots : List Candidate) (installations : List Installation) :
    (ranked roots installations).outcome
      = if installations = [] then .error (.kitNotFound (roots.map Candidate.path))
        else .ok (KitVersion.newestFirst Installation.version installations) := by
  unfold ranked
  split
  · rename_i noneSorted
    rw [if_pos (KitVersion.newestFirst_eq_nil_iff.mp noneSorted)]
    rfl
  · rename_i newest others sorted
    have nonempty : installations ≠ [] := fun noneSorted => by
      rw [KitVersion.newestFirst_eq_nil_iff.mpr noneSorted] at sorted
      cases sorted
    rw [if_neg nonempty, sorted]
    rfl

theorem warnings_ranked (roots : List Candidate) (installations : List Installation) :
    (ranked roots installations).warnings = [] := by
  unfold ranked
  split
  · rfl
  · rfl

/-- A search of roots is exact: it finds what is there, and says what it passes over and what it
has read. -/
structure IsExact (disk : Disk) (roots : List Candidate) (earlier : List Log.Entry)
    (found : Traced (List Installation)) (consulted : List Path) : Prop where
  /-- Each finding on the disk is found once, in the order of precedence. -/
  outcome :
    ∃ findings : List Finding,
      findings.Nodup ∧ (∀ finding, finding ∈ findings ↔ finding.IsOn disk roots) ∧
        findings.Pairwise (Finding.Precedes roots) ∧
        found.outcome
          = if findings = [] then .error (.kitNotFound (roots.map Candidate.path))
            else .ok (findings.map Finding.installation)
  /-- Each directory that is passed over is warned of once, after what was warned of earlier. -/
  warnings :
    ∃ passedOver : List (Candidate × String),
      passedOver.Nodup ∧
        (∀ root name, (root, name) ∈ passedOver ↔ IsPassedOver disk roots root name) ∧
        found.warnings
          = earlier ++ passedOver.map fun entry => passedOverWarning entry.1 entry.2
  consulted : consulted = presentVersionRoots disk roots

theorem isExact_discover (chosen : (Candidate.all environment store standard).outcome = .ok all)
    (searchable : ∀ root ∈ distinctRoots disk all, CanBeSearched disk root) :
    IsExact disk (distinctRoots disk all) (Candidate.all environment store standard).warnings
      (discover disk environment store standard).found
      (discover disk environment store standard).consulted := by
  have finished := isFinished_probeAll searchable
  have chosenRoots := outcome_roots disk chosen
  rw [discover_of_candidates chosen]
  constructor
  · let findings := KitVersion.newestFirst Finding.version
      ((distinctRoots disk all).flatMap (findingsAt disk))
    have inOrder : findings.Pairwise (Finding.Precedes (distinctRoots disk all)) :=
      pairwise_precedes searchable
    refine ⟨findings, nodup_of_pairwise_precedes (nodup_distinctRoots disk all) inOrder,
      ?_, inOrder, ?_⟩
    · intro finding
      rw [← mem_findings_iff searchable]
      exact (KitVersion.newestFirst_perm _ _).mem_iff
    · have installations : findings.map Finding.installation
          = KitVersion.newestFirst Installation.version
              (((distinctRoots disk all).flatMap (readings disk)).map Prod.snd) := by
        rw [← map_installation_findings searchable]
        exact List.map_mergeSort fun left _ right _ => rfl
      have noneFound : findings = []
          ↔ ((distinctRoots disk all).flatMap (readings disk)).map Prod.snd = [] := by
        rw [← List.map_eq_nil_iff, installations, KitVersion.newestFirst_eq_nil_iff]
      rw [Traced.outcome_bind, chosenRoots, ok_bind, Traced.outcome_bind, finished.found, ok_bind,
        outcome_ranked, installations]
      exact if_congr noneFound.symm rfl rfl
  · refine ⟨(distinctRoots disk all).flatMap (passedOverAt disk),
      nodup_passedOver (nodup_distinctRoots disk all) searchable,
      fun root name => mem_passedOver_iff searchable, ?_⟩
    rw [Traced.warnings_bind chosenRoots, Traced.warnings_bind finished.found, warnings_ranked,
      List.append_nil, warnings_roots, finished.warnings]
  · exact finished.consulted

theorem canBeSearched_of_discover
    (chosen : (Candidate.all environment store standard).outcome = .ok all)
    {installations : List Installation}
    (found : (discover disk environment store standard).found.outcome = .ok installations) :
    ∀ root ∈ distinctRoots disk all, CanBeSearched disk root := by
  rw [discover_of_candidates chosen] at found
  obtain ⟨_, _, afterRoots⟩ := Traced.outcome_bind_eq_ok_iff.mp found
  obtain ⟨_, probed, _⟩ := Traced.outcome_bind_eq_ok_iff.mp afterRoots
  exact canBeSearched_of_probeAll probed

theorem outcome_discover_of_refused
    (chosen : (Candidate.all environment store standard).outcome = .ok all)
    {before after : List Candidate} {refusing : Candidate} {failure : Failure}
    (split : distinctRoots disk all = before ++ refusing :: after)
    (searchable : ∀ root ∈ before, CanBeSearched disk root)
    (refused : IsRefusedAt disk refusing failure) :
    (discover disk environment store standard).found.outcome = .error failure := by
  have ends := outcome_probeAll_of_refused refused after searchable
  rw [← split] at ends
  rw [discover_of_candidates chosen, Traced.outcome_bind, outcome_roots disk chosen, ok_bind,
    Traced.outcome_bind, ends, error_bind]

end

theorem answersSame_of_holdsSame {disk other : Disk} (same : disk.HoldsSame other)
    (candidate : Candidate) : AnswersSame disk other candidate :=
  ⟨same.isDirectory _, fun _ => same.subdirectories _⟩

/-- A search of roots that can all be searched is exact, and one that is not ends with the refusal
at the first root for which the host refuses to answer. In what order the host keeps what is in a
directory makes no difference. -/
theorem discover_exact {locator : Locator} {surroundings : Surroundings} {all : List Candidate}
    (chosen : (locator.candidates surroundings).outcome = .ok all) :
    let roots := distinctRoots surroundings.disk all
    let disk := surroundings.disk
    let found := (locator.discover surroundings).1
    let consulted := (locator.discover surroundings).2.consulted
    ((∀ root ∈ roots, CanBeSearched disk root) →
        IsExact disk roots (locator.candidates surroundings).warnings found consulted) ∧
      (∀ before refusing after failure,
        roots = before ++ refusing :: after → (∀ root ∈ before, CanBeSearched disk root) →
          IsRefusedAt disk refusing failure → found.outcome = .error failure) ∧
      ∀ other, disk.HoldsSame other →
        locator.discover { surroundings with disk := other } = locator.discover surroundings := by
  refine ⟨isExact_discover chosen, ?_, ?_⟩
  · intro before refusing after failure split searchable refused
    exact outcome_discover_of_refused chosen split searchable refused
  · intro other same
    have discovery := discover_congr chosen same.workingDirectory.symm fun candidate _ =>
      answersSame_of_holdsSame same candidate
    simp only [Locator.discover, discovery]

/-- Two roots hold one version, written differently, and a third one a directory that is passed
over; a fourth root is the first one again, as an absolute path. -/
theorem discover_exact_tied :
    let disk : Disk :=
      { Disk.empty with
        entries :=
          [["c"], ["c", "Lib"], ["c", "Lib", "misc"], ["b"], ["b", "Lib"], ["b", "Lib", "10"],
            ["a"], ["a", "Lib"], ["a", "Lib", "10.0"]].map fun names =>
            (⟨names⟩, .directory) }
    let surroundings : Surroundings := { disk, environment := [], store := .absent }
    let locator := Locator.ofStandard (["a", "b", "c", "/a"].map Path.ofText)
    let roots : List Candidate :=
      ["a", "b", "c"].map fun text => ⟨Path.ofText text, "standard_location"⟩
    IsExact disk roots [] (locator.discover surroundings).1
        (locator.discover surroundings).2.consulted ∧
      locator.discover
          { surroundings with disk := { disk with entries := disk.entries.reverse } }
        = locator.discover surroundings := by
  intro disk surroundings locator roots
  let all : List Candidate :=
    ["a", "b", "c", "/a"].map fun text => ⟨Path.ofText text, "standard_location"⟩
  have chosen : (locator.candidates surroundings).outcome = .ok all := rfl
  have noWarnings : (locator.candidates surroundings).warnings = [] := rfl
  have distinct : distinctRoots disk all = roots := by decide +kernel
  have searchable : ∀ root ∈ roots, CanBeSearched disk root := by
    have evaluated : ∀ root ∈ roots,
        disk.isDirectory (KitLayout.versionRoot root.path) = .ok true ∧
          (disk.subdirectories (KitLayout.versionRoot root.path)).toOption.isSome = true := by
      decide +kernel
    intro root inRoots
    obtain ⟨isThere, listed⟩ := evaluated root inRoots
    exact Or.inr ⟨isThere, exists_ok_of_isSome listed⟩
  have same : disk.HoldsSame { disk with entries := disk.entries.reverse } :=
    Disk.holdsSame_of_perm (List.reverse_perm _).symm (by decide +kernel) rfl rfl
  obtain ⟨isExact, _, anyOrder⟩ := discover_exact chosen
  rw [distinct, noWarnings] at isExact
  exact ⟨isExact searchable, anyOrder _ same⟩

end DriverKit.Discovery
