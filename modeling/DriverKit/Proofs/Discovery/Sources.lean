import DriverKit.Proofs.Discovery.SkippedRoots

/-!
# Sources of roots

The environment, the store and the standard locations can all give roots, and a search takes its
candidates from one of them: the first that is there. The store is not asked for anything as long as
the environment gives a root, and a store that refuses to be read is as good as none. What the roots
hold has no part in the choice. A search at a root without a kit fails, whatever a later source
would have led to.
-/

namespace DriverKit

open Candidate (rootKey rootName rootVariable)

/-! ## Stores -/

namespace Store

/-- Every value of a store is a text, or can be given as one. -/
def HoldsTexts : Store → Prop
  | .absent => True
  | .table values _ => ∀ entry ∈ values, ∃ text, entry.2 = .text text
  | .registry keys _ => ∀ entry ∈ keys, ∀ named ∈ entry.2, named.2.isWritable = true

theorem warnings_read (store : Store) (key name : String) :
    (store.read key name).warnings = [] := by
  cases store with
  | absent => rfl
  | table values refusal => cases refusal <;> rfl
  | registry keys refusal =>
      cases refusal with
      | some text => rfl
      | none =>
          rw [read]
          cases (keys.lookup key).bind (·.lookup name) with
          | none => rfl
          | some value =>
              by_cases writable : value.isWritable = true
              · simp only [Datum.write, if_pos writable]
                rfl
              · simp only [Datum.write, if_neg writable]
                rfl

/-- A store of texts gives a text or nothing, unless it refuses to be read. -/
theorem read_of_holdsTexts {store : Store} (texts : store.HoldsTexts) (key name : String) :
    (store.read key name).outcome = .ok none ∨
      (∃ text, (store.read key name).outcome = .ok (some (.text text))) ∨
        ∃ fault, (store.read key name).outcome = .error (.host fault) := by
  cases store with
  | absent => exact Or.inl rfl
  | table values refusal =>
      cases refusal with
      | some text => exact Or.inr (Or.inr ⟨_, rfl⟩)
      | none =>
          cases found : values.lookup (key, name) with
          | none => exact Or.inl (congrArg Except.ok found)
          | some value =>
              obtain ⟨text, rfl⟩ := texts _ (Disk.mem_of_lookup found)
              exact Or.inr (Or.inl ⟨text, congrArg Except.ok found⟩)
  | registry keys refusal =>
      cases refusal with
      | some text => exact Or.inr (Or.inr ⟨_, rfl⟩)
      | none =>
          rw [read]
          cases found : (keys.lookup key).bind (·.lookup name) with
          | none => exact Or.inl rfl
          | some value =>
              obtain ⟨named, keyFound, nameFound⟩ := Option.bind_eq_some_iff.mp found
              have writable : value.isWritable = true :=
                texts _ (Disk.mem_of_lookup keyFound) _ (Disk.mem_of_lookup nameFound)
              simp only [Datum.write, if_pos writable]
              exact Or.inr (Or.inl ⟨value.plain, rfl⟩)

end Store

namespace Discovery

/-! ## Choices -/

/-- Where roots come from, the strongest source first. -/
inductive Origin where
  | environment
  | registry
  | standard
deriving DecidableEq, Repr

def Origin.method : Origin → String
  | environment => "environment"
  | registry => "registry"
  | standard => "standard_location"

/-- The source of the candidates, the roots that it gives, and what is warned of on the way to
it. -/
structure Choice where
  origin : Origin
  roots : List Path
  warnings : List Log.Entry

def Choice.candidates (choice : Choice) : List Candidate :=
  choice.roots.map fun path => ⟨path, choice.origin.method⟩

/-- The environment gives no root: the variable is not set, or it is blank. -/
def IsUnset (environment : Environment) : Prop :=
  ∀ value, environment.value? rootVariable = some value → Text.trim value = ""

/-- What is said of a store that refuses to be read. -/
def refusedWarning (fault : HostFault) : Log.Entry :=
  ⟨.warning, .locator, "Configuration store query failed, using fallbacks: " ++ fault.message⟩

/-- A store gives no root, and this is warned of. -/
inductive GivesNone (store : Store) : List Log.Entry → Prop where
  | unavailable (isAbsent : store.isAvailable = false) : GivesNone store []
  | missing (available : store.isAvailable = true)
      (missing : (store.read rootKey rootName).outcome = .ok none) : GivesNone store []
  | empty {value : Datum} (available : store.isAvailable = true)
      (given : (store.read rootKey rootName).outcome = .ok (some value))
      (empty : value.isPresent = false) : GivesNone store []
  | refused {fault : HostFault} (available : store.isAvailable = true)
      (refused : (store.read rootKey rootName).outcome = .error (.host fault)) :
      GivesNone store [refusedWarning fault]

structure GivesRoot (store : Store) (root : String) : Prop where
  available : store.isAvailable = true
  given : (store.read rootKey rootName).outcome = .ok (some (.text root))
  filled : root ≠ ""

/-- The choice among the sources: a root of the environment before that of the store, and that
before the standard locations. -/
inductive Choice.IsMade (environment : Environment) (store : Store) (standard : List Path) :
    Choice → Prop where
  | environment {value : String} (isSet : environment.value? rootVariable = some value)
      (filled : Text.trim value ≠ "") :
      IsMade environment store standard ⟨.environment, [Path.ofText (Text.trim value)], []⟩
  | registry {root : String} (unset : IsUnset environment) (given : GivesRoot store root) :
      IsMade environment store standard ⟨.registry, [Path.ofText root], []⟩
  | standard {warnings : List Log.Entry} (unset : IsUnset environment)
      (givesNone : GivesNone store warnings) :
      IsMade environment store standard ⟨.standard, standard, warnings⟩

variable {environment : Environment} {store other : Store} {standard others : List Path}

/-! ## The choice among the sources -/

theorem isUnset_iff : IsUnset environment ↔ Candidate.override? environment = none := by
  unfold IsUnset Candidate.override?
  cases environment.value? rootVariable with
  | none => simp
  | some value => simp

theorem override?_of_filled {value : String}
    (isSet : environment.value? rootVariable = some value) (filled : Text.trim value ≠ "") :
    Candidate.override? environment = some (Text.trim value) := by
  simp [Candidate.override?, isSet, filled]

theorem ofStore_of_givesNone {warnings : List Log.Entry} (givesNone : GivesNone store warnings) :
    (Candidate.ofStore store).Yields .none warnings := by
  have silent := Store.warnings_read store rootKey rootName
  cases givesNone with
  | unavailable isAbsent =>
      rw [Candidate.ofStore, isAbsent]
      exact ⟨rfl, rfl⟩
  | missing available missing =>
      rw [Candidate.ofStore]
      simp only [available, missing, Bool.not_true, Bool.false_eq_true, if_false]
      exact Traced.Yields.bind ⟨missing, silent⟩ ⟨rfl, rfl⟩
  | @empty value available given empty =>
      have absent : value.present? = .none := if_neg (Bool.eq_false_iff.mp empty)
      rw [Candidate.ofStore]
      simp only [available, given, Bool.not_true, Bool.false_eq_true, if_false]
      apply Traced.Yields.bind ⟨given, silent⟩
      rw [Option.bind_some, absent]
      exact ⟨rfl, rfl⟩
  | refused available refused =>
      rw [Candidate.ofStore]
      simp only [available, refused, Bool.not_true, Bool.false_eq_true, if_false]
      exact ⟨rfl, rfl⟩

theorem ofStore_of_givesRoot {root : String} (gives : GivesRoot store root) :
    (Candidate.ofStore store).Yields (some ⟨Path.ofText root, Origin.registry.method⟩) [] := by
  have isPresent : (Datum.text root).isPresent = true := bne_iff_ne.mpr gives.filled
  have present : (Datum.text root).present? = some (.text root) := if_pos isPresent
  rw [Candidate.ofStore]
  simp only [gives.available, gives.given, Bool.not_true, Bool.false_eq_true, if_false]
  apply Traced.Yields.bind ⟨gives.given, Store.warnings_read store rootKey rootName⟩
  rw [Option.bind_some, present]
  exact ⟨rfl, rfl⟩

theorem GivesNone.unique {warnings otherWarnings : List Log.Entry}
    (givesNone : GivesNone store warnings) (otherNone : GivesNone store otherWarnings) :
    otherWarnings = warnings :=
  (ofStore_of_givesNone otherNone).warnings.symm.trans (ofStore_of_givesNone givesNone).warnings

theorem GivesRoot.unique {root otherRoot : String} (gives : GivesRoot store root)
    (otherGives : GivesRoot store otherRoot) : otherRoot = root := by
  have same := otherGives.given.symm.trans gives.given
  cases same
  rfl

theorem GivesRoot.not_givesNone {warnings : List Log.Entry} {root : String}
    (gives : GivesRoot store root) : ¬GivesNone store warnings := by
  intro givesNone
  have same := (ofStore_of_givesNone givesNone).outcome.symm.trans
    (ofStore_of_givesRoot gives).outcome
  cases same

/-- A store of texts gives a root or none. -/
theorem exists_of_holdsTexts (texts : store.HoldsTexts) :
    (∃ root, GivesRoot store root) ∨ ∃ warnings, GivesNone store warnings := by
  cases available : store.isAvailable with
  | false => exact Or.inr ⟨_, .unavailable available⟩
  | true =>
      rcases Store.read_of_holdsTexts texts rootKey rootName with
        missing | ⟨root, given⟩ | ⟨fault, refused⟩
      · exact Or.inr ⟨_, .missing available missing⟩
      · by_cases filled : root = ""
        · subst filled
          exact Or.inr ⟨_, .empty available given rfl⟩
        · exact Or.inl ⟨root, available, given, filled⟩
      · exact Or.inr ⟨_, .refused available refused⟩

theorem Choice.IsMade.unique {choice otherChoice : Choice}
    (made : choice.IsMade environment store standard)
    (otherMade : otherChoice.IsMade environment store standard) : otherChoice = choice := by
  cases made with
  | environment isSet filled =>
      cases otherMade with
      | environment otherSet _ =>
          cases isSet.symm.trans otherSet
          rfl
      | registry unset _ => exact absurd (unset _ isSet) filled
      | standard unset _ => exact absurd (unset _ isSet) filled
  | registry unset gives =>
      cases otherMade with
      | environment otherSet filled => exact absurd (unset _ otherSet) filled
      | registry _ otherGives => rw [gives.unique otherGives]
      | standard _ givesNone => exact absurd givesNone gives.not_givesNone
  | standard unset givesNone =>
      cases otherMade with
      | environment otherSet filled => exact absurd (unset _ otherSet) filled
      | registry _ gives => exact absurd givesNone gives.not_givesNone
      | standard _ otherNone => rw [givesNone.unique otherNone]

theorem exists_isMade (environment : Environment) (standard : List Path)
    (texts : store.HoldsTexts) : ∃ choice : Choice, choice.IsMade environment store standard := by
  by_cases unset : IsUnset environment
  · rcases exists_of_holdsTexts texts with ⟨root, gives⟩ | ⟨warnings, givesNone⟩
    · exact ⟨_, .registry unset gives⟩
    · exact ⟨_, .standard unset givesNone⟩
  · obtain ⟨value, notBlank⟩ := not_forall.mp unset
    obtain ⟨isSet, filled⟩ := Classical.not_imp.mp notBlank
    exact ⟨_, .environment isSet filled⟩

/-! ## Searches after a choice -/

theorem all_of_isMade {choice : Choice} (made : choice.IsMade environment store standard) :
    (Candidate.all environment store standard).Yields choice.candidates choice.warnings := by
  cases made with
  | environment isSet filled =>
      rw [Candidate.all, override?_of_filled isSet filled]
      exact ⟨rfl, rfl⟩
  | registry unset gives =>
      rw [Candidate.all, isUnset_iff.mp unset]
      exact (ofStore_of_givesRoot gives).bind ⟨rfl, rfl⟩
  | @standard warnings unset givesNone =>
      rw [Candidate.all, isUnset_iff.mp unset, ← List.append_nil warnings]
      exact (ofStore_of_givesNone givesNone).bind ⟨rfl, rfl⟩

/-- The sources down to one are the same. -/
def SameDownTo (store other : Store) (standard others : List Path) : Origin → Prop
  | .environment => True
  | .registry => other = store
  | .standard => other = store ∧ others = standard

theorem all_eq_of_isMade {choice : Choice} (made : choice.IsMade environment store standard)
    (same : SameDownTo store other standard others choice.origin) :
    Candidate.all environment other others = Candidate.all environment store standard := by
  cases made with
  | environment isSet filled =>
      rw [Candidate.all, Candidate.all, override?_of_filled isSet filled]
  | registry unset gives =>
      rw [Candidate.all, Candidate.all, isUnset_iff.mp unset, same]
      exact Traced.bind_congr_of_ok (ofStore_of_givesRoot gives).outcome rfl
  | standard unset givesNone => rw [same.1, same.2]

/-- What was warned of when the candidates were chosen is in the log of the search. -/
theorem mem_log_discover (disk : Disk) {entry : Log.Entry}
    (warned : entry ∈ (Candidate.all environment store standard).warnings) :
    entry ∈ (discover disk environment store standard).found.log := by
  have begun := Traced.outcome_say .info .locator "Starting kit discovery"
  apply Traced.mem_log_bind
  apply Traced.mem_log_bind_of_next begun
  apply Traced.mem_log_bind
  exact List.mem_of_mem_filter warned

/-- A choice decides a search: its candidates are the only ones, what is found is at its roots, and
weaker sources have no part in it. -/
structure Choice.Decides (environment : Environment) (store : Store) (standard : List Path)
    (choice : Choice) : Prop where
  candidates : (Candidate.all environment store standard).outcome = .ok choice.candidates
  warnings : (Candidate.all environment store standard).warnings = choice.warnings
  logged : ∀ disk, ∀ entry ∈ choice.warnings,
    entry ∈ (discover disk environment store standard).found.log
  found : ∀ disk installations,
    (discover disk environment store standard).found.outcome = .ok installations →
      ∀ installation ∈ installations,
        installation.method = choice.origin.method ∧ installation.root ∈ choice.roots
  /-- If the roots of the choice can be searched and hold no kit, no other root is turned to. -/
  missing : ∀ disk,
    (∀ root ∈ distinctRoots disk choice.candidates, CanBeSearched disk root) →
      (∀ finding : Finding, ¬finding.IsOn disk (distinctRoots disk choice.candidates)) →
        (discover disk environment store standard).found.outcome
          = .error (.kitNotFound ((distinctRoots disk choice.candidates).map Candidate.path))
  /-- Nothing is said, found or read in another way with other weaker sources. -/
  exclusive : ∀ other others, SameDownTo store other standard others choice.origin →
    Candidate.all environment other others = Candidate.all environment store standard ∧
      ∀ disk, discover disk environment other others = discover disk environment store standard

theorem mem_candidates_iff {choice : Choice} {candidate : Candidate} :
    candidate ∈ choice.candidates ↔
      candidate.path ∈ choice.roots ∧ candidate.method = choice.origin.method := by
  obtain ⟨path, method⟩ := candidate
  simp [Choice.candidates, eq_comm]

theorem found_at_candidates {disk : Disk} {choice : Choice}
    (chosen : (Candidate.all environment store standard).outcome = .ok choice.candidates)
    {installations : List Installation}
    (found : (discover disk environment store standard).found.outcome = .ok installations)
    {installation : Installation} (member : installation ∈ installations) :
    installation.method = choice.origin.method ∧ installation.root ∈ choice.roots := by
  obtain ⟨findings, _, _, complete, _, same⟩ := exists_findings_of_discover chosen found
  rw [← same] at member
  obtain ⟨finding, inFindings, rfl⟩ := List.mem_map.mp member
  have isOn := (complete finding).mp inFindings
  have isCandidate := mem_candidates_iff.mp (distinctBy_sublist.subset isOn.root)
  exact ⟨isCandidate.2, isCandidate.1⟩

theorem outcome_discover_of_no_finding {disk : Disk} {all : List Candidate}
    (chosen : (Candidate.all environment store standard).outcome = .ok all)
    (searchable : ∀ root ∈ distinctRoots disk all, CanBeSearched disk root)
    (noFinding : ∀ finding : Finding, ¬finding.IsOn disk (distinctRoots disk all)) :
    (discover disk environment store standard).found.outcome
      = .error (.kitNotFound ((distinctRoots disk all).map Candidate.path)) := by
  obtain ⟨findings, _, complete, _, outcome⟩ := (isExact_discover chosen searchable).outcome
  have empty : findings = [] :=
    List.eq_nil_iff_forall_not_mem.mpr fun finding member =>
      noFinding finding ((complete finding).mp member)
  rw [outcome, if_pos empty]

theorem decides_of_isMade {choice : Choice} (made : choice.IsMade environment store standard) :
    choice.Decides environment store standard := by
  have chosen := all_of_isMade made
  constructor
  · exact chosen.outcome
  · exact chosen.warnings
  · intro disk entry member
    rw [← chosen.warnings] at member
    exact mem_log_discover disk member
  · intro disk installations found installation member
    exact found_at_candidates chosen.outcome found member
  · intro disk searchable noFinding
    exact outcome_discover_of_no_finding chosen.outcome searchable noFinding
  · intro other others same
    have unread := all_eq_of_isMade made same
    refine ⟨unread, fun disk => ?_⟩
    rw [discover, discover, unread]

/-- A search takes its candidates from one source, the strongest one that is there, and nothing that
weaker sources hold has a part in what it says, finds and reads. Wherever the store holds texts
there is exactly one such source. -/
theorem choice_decides_discovery (environment : Environment) (store : Store)
    (standard : List Path) :
    (∀ choice : Choice, choice.IsMade environment store standard →
      choice.Decides environment store standard) ∧
      (store.HoldsTexts → ∃! choice : Choice, choice.IsMade environment store standard) := by
  refine ⟨fun choice made => decides_of_isMade made, fun texts => ?_⟩
  obtain ⟨choice, made⟩ := exists_isMade environment standard texts
  exact ⟨choice, made, fun other otherMade => made.unique otherMade⟩

/-- The root of the environment holds no kit, and the search fails there, although the store has the
root of a kit, which is found as soon as the environment gives none. -/
theorem choice_decides_discovery_without_kit :
    let disk : Disk :=
      { Disk.empty with
        entries :=
          [["kit"], ["kit", "Lib"], ["kit", "Lib", "10.0"]].map fun names =>
            (⟨names⟩, .directory) }
    let store : Store := .table [((rootKey, rootName), .text "kit")] none
    let found (environment : Environment) :=
      (discover disk environment store [Path.ofText "kit"]).found.outcome
    found [(rootVariable, " empty ")] = .error (.kitNotFound [Path.ofText "empty"]) ∧
      store.HoldsTexts ∧
      ∃ installations, found [] = .ok installations ∧ installations ≠ [] ∧
        ∀ installation ∈ installations, installation.method = "registry" := by
  intro disk store found
  let override : Choice := ⟨.environment, [Path.ofText (Text.trim " empty ")], []⟩
  let stored : Choice := ⟨.registry, [Path.ofText "kit"], []⟩
  have texts : store.HoldsTexts := by
    intro entry member
    rw [List.mem_singleton.mp member]
    exact ⟨"kit", rfl⟩
  have trimmed : Text.trim " empty " = "empty" := by decide +kernel
  have overridden : override.IsMade [(rootVariable, " empty ")] store [Path.ofText "kit"] := by
    apply Choice.IsMade.environment (by decide)
    rw [trimmed]
    decide
  have given : GivesRoot store "kit" := ⟨rfl, rfl, by decide⟩
  have unset : IsUnset [] := fun value isSet => by cases isSet
  have storedMade : stored.IsMade [] store [Path.ofText "kit"] := .registry unset given
  refine ⟨?_, texts, ?_⟩
  · have decides := (choice_decides_discovery _ store _).1 override overridden
    have single : distinctRoots disk override.candidates = override.candidates := by decide +kernel
    have absent : ∀ root ∈ distinctRoots disk override.candidates,
        disk.isDirectory (KitLayout.versionRoot root.path) = .ok false := by
      rw [single]
      decide +kernel
    have fails := decides.missing disk (fun root inRoots => Or.inl (absent root inRoots))
      fun finding isOn => by
        have isThere := Disk.isDirectory_of_hasSubdirectory isOn.within
        rw [absent _ isOn.root] at isThere
        cases isThere
    rw [single] at fails
    rw [← trimmed]
    exact fails
  · have decides := (choice_decides_discovery _ store _).1 stored storedMade
    have evaluated : (found []).toOption.isSome = true := by decide +kernel
    obtain ⟨installations, outcome⟩ := exists_ok_of_isSome evaluated
    refine ⟨installations, outcome, ?_, fun installation member => ?_⟩
    · obtain ⟨findings, _, nonempty, _, _, same⟩ :=
        exists_findings_of_discover decides.candidates outcome
      rw [← same]
      exact fun empty => nonempty (List.map_eq_nil_iff.mp empty)
    · exact (decides.found disk installations outcome installation member).1

end Discovery

end DriverKit
