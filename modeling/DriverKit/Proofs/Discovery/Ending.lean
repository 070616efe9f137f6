import DriverKit.Proofs.Discovery.Search

/-!
# How a search ends

Where the host lists every version directory that is there, a search has two ends. It finds what is
there to find, or the path of one of the roots is too long for the host to be asked for it, and then
the fault of the host ends the search, whatever there is to find at the other roots. Elsewhere it
can also end because a version directory is not listed.
-/

namespace DriverKit.Discovery

variable {disk : Disk} {environment : Environment} {store : Store} {standard : List Path}
  {all : List Candidate}

/-- The host lists the version directory of a root if it is there. -/
def IsListable (disk : Disk) (root : Candidate) : Prop :=
  disk.isDirectory (KitLayout.versionRoot root.path) = .ok true →
    ∃ names, disk.subdirectories (KitLayout.versionRoot root.path) = .ok names

/-- If not all roots can be searched, there is a first one that cannot. -/
theorem canBeSearched_or_exists_first (disk : Disk) :
    ∀ roots : List Candidate,
      (∀ root ∈ roots, CanBeSearched disk root) ∨
        ∃ before refusing after failure,
          roots = before ++ refusing :: after ∧ (∀ root ∈ before, CanBeSearched disk root) ∧
            IsRefusedAt disk refusing failure
  | [] => Or.inl (by simp)
  | root :: rest => by
      rcases canBeSearched_or_isRefusedAt disk root with searchable | ⟨failure, refused⟩
      · rcases canBeSearched_or_exists_first disk rest with
          others | ⟨before, refusing, after, failure, split, searched, refused⟩
        · exact Or.inl (List.forall_mem_cons.mpr ⟨searchable, others⟩)
        · refine Or.inr ⟨root :: before, refusing, after, failure, ?_, ?_, refused⟩
          · rw [split, List.cons_append]
          · exact List.forall_mem_cons.mpr ⟨searchable, searched⟩
      · exact Or.inr ⟨[], root, rest, failure, rfl, by simp, refused⟩

/-- The version directory of a root cannot be asked for, and a search has ended there with the
fault of the host. -/
structure EndsOverlong (disk : Disk) (root : Candidate)
    (found : Except Failure (List Installation)) : Prop where
  overlong : disk.place (KitLayout.versionRoot root.path) = .error .overlong
  ends : found = .error (.host (.overlong (KitLayout.versionRoot root.path).text))

/-- Where the host lists what is there, only a root that it cannot be asked for stops a search. -/
theorem canBeSearched_or_endsOverlong
    (chosen : (Candidate.all environment store standard).outcome = .ok all)
    (listable : ∀ root ∈ distinctRoots disk all, IsListable disk root) :
    (∀ root ∈ distinctRoots disk all, CanBeSearched disk root) ∨
      ∃ root ∈ distinctRoots disk all,
        EndsOverlong disk root (discover disk environment store standard).found.outcome := by
  rcases canBeSearched_or_exists_first disk (distinctRoots disk all) with
    searchable | ⟨before, refusing, after, failure, split, searched, refused⟩
  · exact Or.inl searchable
  · have ends := outcome_discover_of_refused chosen split searched refused
    have inRoots : refusing ∈ distinctRoots disk all := by simp [split]
    cases refused with
    | unasked answer =>
        obtain ⟨overlong, rfl⟩ := Disk.isDirectory_eq_error_iff.mp answer
        exact Or.inr ⟨refusing, inRoots, overlong, ends⟩
    | unlisted isThere answer =>
        obtain ⟨names, listed⟩ := listable refusing inRoots isThere
        rw [listed] at answer
        cases answer

/-- Where all roots can be searched and there is something to find, a search finds it. -/
theorem exists_of_isOn (chosen : (Candidate.all environment store standard).outcome = .ok all)
    (searchable : ∀ root ∈ distinctRoots disk all, CanBeSearched disk root) {finding : Finding}
    (isOn : finding.IsOn disk (distinctRoots disk all)) :
    ∃ installations,
      (discover disk environment store standard).found.outcome = .ok installations ∧
        finding.installation ∈ installations := by
  obtain ⟨findings, _, complete, _, outcome⟩ := (isExact_discover chosen searchable).outcome
  have member : finding ∈ findings := (complete finding).mpr isOn
  rw [if_neg (List.ne_nil_of_mem member)] at outcome
  exact ⟨_, outcome, List.mem_map_of_mem member⟩

/-- A search that ends well has found what is there, in the order of precedence. -/
theorem exists_findings_of_discover
    (chosen : (Candidate.all environment store standard).outcome = .ok all)
    {installations : List Installation}
    (found : (discover disk environment store standard).found.outcome = .ok installations) :
    ∃ findings : List Finding,
      findings.Nodup ∧ findings ≠ [] ∧
        (∀ finding, finding ∈ findings ↔ finding.IsOn disk (distinctRoots disk all)) ∧
        findings.Pairwise (Finding.Precedes (distinctRoots disk all)) ∧
        findings.map Finding.installation = installations := by
  have searchable := canBeSearched_of_discover chosen found
  obtain ⟨findings, nodup, complete, inOrder, outcome⟩ :=
    (isExact_discover chosen searchable).outcome
  rw [found] at outcome
  split at outcome
  · cases outcome
  · rename_i nonempty
    cases outcome
    exact ⟨findings, nodup, nonempty, complete, inOrder, rfl⟩

/-! ## Failures of searches -/

/-- A search has found no kit, or a version directory is not listed, or the host cannot be asked for
one, or the store or a name holds a value that cannot be used. -/
inductive IsSearchFailure : Failure → Prop where
  | notFound (attempted : List Path) : IsSearchFailure (.kitNotFound attempted)
  | unlisted (path : Path) (text : String) : IsSearchFailure (.probe (some path) (.fault text))
  | unasked (fault : HostFault) : IsSearchFailure (.host fault)
  | misuse (cause : Misuse) : IsSearchFailure (.misuse cause)

theorem failsOnly_storeRead (store : Store) (key name : String) :
    FailsOnly IsSearchFailure (store.read key name).outcome := by
  unfold Store.read
  split
  · exact .ok _
  · exact .error (.unasked _)
  · exact .error (.unasked _)
  · exact .ok _
  · split
    · exact .ok _
    · rename_i value _
      have writes : FailsOnly IsSearchFailure value.write := by
        unfold Datum.write
        split
        · exact .ok _
        · exact .error (.misuse _)
      refine Traced.failsOnly_bind writes fun text => ?_
      exact .ok _

theorem failsOnly_ofStore (store : Store) :
    FailsOnly IsSearchFailure (Candidate.ofStore store).outcome := by
  unfold Candidate.ofStore
  split
  · exact .ok _
  · simp only
    split
    · exact .ok _
    · refine Traced.failsOnly_bind (failsOnly_storeRead store _ _) fun value => ?_
      split
      · exact .ok _
      · rename_i present _
        refine Traced.failsOnly_bind ?_ fun _ => .ok _
        rw [Traced.outcome_lift]
        unfold Candidate.ofValue
        split
        · exact .ok _
        · exact .error (.misuse _)

theorem failsOnly_all (environment : Environment) (store : Store) (standard : List Path) :
    FailsOnly IsSearchFailure (Candidate.all environment store standard).outcome := by
  unfold Candidate.all
  split
  · exact .ok _
  · refine Traced.failsOnly_bind (failsOnly_ofStore store) fun candidate => ?_
    split
    · exact .ok _
    · exact .ok _

theorem failsOnly_readName (candidate : Candidate) (name : String) :
    FailsOnly IsSearchFailure (readName candidate name).outcome := by
  unfold readName
  split
  · exact .ok _
  · exact .ok _
  · rename_i failure notInvalid refused
    intro other failed
    cases failed
    unfold KitVersion.read at refused
    simp only at refused
    split at refused
    · split at refused
      · cases refused
      · cases refused
        exact .misuse _
    · cases refused
      exact absurd rfl (notInvalid _)

theorem failsOnly_readNames (candidate : Candidate) :
    ∀ names : List String, FailsOnly IsSearchFailure (readNames candidate names).outcome
  | [] => .ok []
  | name :: rest => by
      unfold readNames
      split
      · exact Traced.failsOnly_bind (failsOnly_readName candidate name) fun _ =>
          Traced.failsOnly_bind (failsOnly_readNames candidate rest) fun _ => .ok _
      · exact failsOnly_readNames candidate rest

theorem failsOnly_probe (disk : Disk) (candidate : Candidate) :
    FailsOnly IsSearchFailure (probe disk candidate).found.outcome := by
  unfold probe
  simp only
  split
  · exact .error (.unasked _)
  · exact .ok _
  · simp only
    split
    · exact .error (.unlisted _ _)
    · exact failsOnly_readNames candidate _

theorem failsOnly_probeAll (disk : Disk) :
    ∀ candidates : List Candidate,
      FailsOnly IsSearchFailure (probeAll disk candidates).found.outcome
  | [] => .ok []
  | candidate :: rest => by
      have first := failsOnly_probe disk candidate
      unfold probeAll
      simp only
      split
      · exact first
      · exact Traced.failsOnly_bind first fun _ =>
          Traced.failsOnly_bind (failsOnly_probeAll disk rest) fun _ => .ok _

theorem failsOnly_discover (disk : Disk) (environment : Environment) (store : Store)
    (standard : List Path) :
    FailsOnly IsSearchFailure (discover disk environment store standard).found.outcome := by
  have rootsFail : FailsOnly IsSearchFailure (roots disk environment store standard).outcome := by
    simp only [roots, Traced.outcome_bind, Traced.outcome_say, ok_bind, Traced.outcome_map]
    exact (failsOnly_all environment store standard).bind fun _ => .ok _
  refine Traced.failsOnly_bind rootsFail fun candidates => ?_
  refine Traced.failsOnly_bind (failsOnly_probeAll disk _) fun installations => ?_
  rw [outcome_ranked]
  split
  · exact .error (.notFound _)
  · exact .ok _

end DriverKit.Discovery
