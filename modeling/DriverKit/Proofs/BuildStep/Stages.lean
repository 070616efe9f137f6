import DriverKit.Proofs.BuildStep.Triggers
import DriverKit.Proofs.Discovery.Ending
import DriverKit.Proofs.KitLayout.Reading
import DriverKit.Proofs.Options
import DriverKit.Proofs.Resolution.Expansion

/-!
# The stages of a build step

A build step goes through its stages in a fixed order, and the first one that fails decides what it
fails with, whatever else is wrong. The first three stages look at the options and at the name of
the machine alone. If one of them fails, no kit is searched for, and on any other host with that
name the build step fails with the same failure and the same log.
-/

namespace DriverKit.BuildStep

/-- What a build step does one after the other, once its layout has been accepted. -/
inductive Stage where
  | driver
  | target
  | pin
  | search
  | selection
  | expansion
  | verification
deriving DecidableEq, Repr

/-- The place of a stage in the order of all stages. -/
def Stage.rank : Stage → Nat
  | .driver => 0
  | .target => 1
  | .pin => 2
  | .search => 3
  | .selection => 4
  | .expansion => 5
  | .verification => 6

theorem Stage.eq_of_rank_eq {stage other : Stage} (same : stage.rank = other.rank) :
    stage = other := by
  cases stage <;> cases other <;> first | rfl | cases same

variable {step : BuildStep} {layout : KitLayout} {disk : Disk}

/-- A stage fails. A stage that works on what others have made fails only if they have made it, and
apart from that no stage minds the others. -/
inductive FailsAt (step : BuildStep) (layout : KitLayout) (disk : Disk) : Stage → Failure → Prop
  | driver {failure : Failure} (failed : step.options.driverConfig = .error failure) :
      FailsAt step layout disk .driver failure
  | target {failure : Failure}
      (failed : (step.options.target step.machine).outcome = .error failure) :
      FailsAt step layout disk .target failure
  | pin {failure : Failure} (failed : step.options.pin = .error failure) :
      FailsAt step layout disk .pin failure
  | search {failure : Failure} (failed : (step.search disk).found.outcome = .error failure) :
      FailsAt step layout disk .search failure
  | selection {failure : Failure} {pin : Option KitVersion} {installations : List Installation}
      (pinned : step.options.pin = .ok pin)
      (found : (step.search disk).found.outcome = .ok installations)
      (failed : Installation.select installations pin = .error failure) :
      FailsAt step layout disk .selection failure
  | expansion {failure : Failure} {driver : DriverConfig} {arch : Arch} {pin : Option KitVersion}
      {installations : List Installation} {installation : Installation}
      (driverMade : step.options.driverConfig = .ok driver)
      (archMade : (step.options.target step.machine).outcome = .ok arch)
      (pinned : step.options.pin = .ok pin)
      (found : (step.search disk).found.outcome = .ok installations)
      (selected : Installation.select installations pin = .ok installation)
      (failed : Resolution.configure layout installation driver arch (step.search disk).consulted
        = .error failure) :
      FailsAt step layout disk .expansion failure
  | verification {failure : Failure} {driver : DriverConfig} {arch : Arch}
      {pin : Option KitVersion} {installations : List Installation} {installation : Installation}
      {config : BuildConfig}
      (driverMade : step.options.driverConfig = .ok driver)
      (archMade : (step.options.target step.machine).outcome = .ok arch)
      (pinned : step.options.pin = .ok pin)
      (found : (step.search disk).found.outcome = .ok installations)
      (selected : Installation.select installations pin = .ok installation)
      (made : Resolution.configure layout installation driver arch (step.search disk).consulted
        = .ok config)
      (verifies : step.verify = true) (failed : config.verify disk = .error failure) :
      FailsAt step layout disk .verification failure

/-- None of the stages before a place fails. -/
def PassesBefore (step : BuildStep) (layout : KitLayout) (disk : Disk) (place : Nat) : Prop :=
  ∀ stage failure, stage.rank < place → ¬ FailsAt step layout disk stage failure

/-- A stage fails, and none before it does. -/
structure IsFirstFailure (step : BuildStep) (layout : KitLayout) (disk : Disk) (stage : Stage)
    (failure : Failure) : Prop where
  fails : FailsAt step layout disk stage failure
  first : PassesBefore step layout disk stage.rank

/-- A stage that is come to fails, or it makes something and the next stage is come to. -/
theorem PassesBefore.cases (stage : Stage) {α : Type} {outcome : Except Failure α}
    (before : PassesBefore step layout disk stage.rank)
    (fails : ∀ failure, FailsAt step layout disk stage failure ↔ outcome = .error failure) :
    (∃ failure, outcome = .error failure ∧ IsFirstFailure step layout disk stage failure) ∨
      ∃ value, outcome = .ok value ∧ PassesBefore step layout disk (stage.rank + 1) := by
  cases made : outcome with
  | error failure => exact Or.inl ⟨failure, rfl, (fails failure).mpr made, before⟩
  | ok value =>
      refine Or.inr ⟨value, rfl, fun other failure isBefore failed => ?_⟩
      rcases Nat.lt_succ_iff_lt_or_eq.mp isBefore with earlier | same
      · exact before other failure earlier failed
      · rw [Stage.eq_of_rank_eq same, fails failure, made] at failed
        cases failed

/-! ## What each stage fails with -/

theorem failsAt_driver_iff {failure : Failure} :
    FailsAt step layout disk .driver failure ↔ step.options.driverConfig = .error failure :=
  ⟨fun fails => by cases fails; assumption, .driver⟩

theorem failsAt_target_iff {failure : Failure} :
    FailsAt step layout disk .target failure ↔
      (step.options.target step.machine).outcome = .error failure :=
  ⟨fun fails => by cases fails; assumption, .target⟩

theorem failsAt_pin_iff {failure : Failure} :
    FailsAt step layout disk .pin failure ↔ step.options.pin = .error failure :=
  ⟨fun fails => by cases fails; assumption, .pin⟩

theorem failsAt_search_iff {failure : Failure} :
    FailsAt step layout disk .search failure ↔
      (step.search disk).found.outcome = .error failure :=
  ⟨fun fails => by cases fails; assumption, .search⟩

section

variable {driver : DriverConfig} {arch : Arch} {pin : Option KitVersion}
  {installations : List Installation} {installation : Installation}

theorem failsAt_selection_iff (pinned : step.options.pin = .ok pin)
    (found : (step.search disk).found.outcome = .ok installations) {failure : Failure} :
    FailsAt step layout disk .selection failure ↔
      Installation.select installations pin = .error failure := by
  constructor
  · intro fails
    cases fails with
    | selection otherPinned otherFound failed =>
        cases pinned.symm.trans otherPinned
        cases found.symm.trans otherFound
        exact failed
  · exact .selection pinned found

theorem failsAt_expansion_iff (driverMade : step.options.driverConfig = .ok driver)
    (archMade : (step.options.target step.machine).outcome = .ok arch)
    (pinned : step.options.pin = .ok pin)
    (found : (step.search disk).found.outcome = .ok installations)
    (selected : Installation.select installations pin = .ok installation) {failure : Failure} :
    FailsAt step layout disk .expansion failure ↔
      Resolution.configure layout installation driver arch (step.search disk).consulted
        = .error failure := by
  constructor
  · intro fails
    cases fails with
    | expansion otherDriver otherArch otherPinned otherFound otherSelected failed =>
        cases driverMade.symm.trans otherDriver
        cases archMade.symm.trans otherArch
        cases pinned.symm.trans otherPinned
        cases found.symm.trans otherFound
        cases selected.symm.trans otherSelected
        exact failed
  · exact .expansion driverMade archMade pinned found selected

theorem failsAt_verification_iff (driverMade : step.options.driverConfig = .ok driver)
    (archMade : (step.options.target step.machine).outcome = .ok arch)
    (pinned : step.options.pin = .ok pin)
    (found : (step.search disk).found.outcome = .ok installations)
    (selected : Installation.select installations pin = .ok installation) {config : BuildConfig}
    (made : Resolution.configure layout installation driver arch (step.search disk).consulted
      = .ok config) {failure : Failure} :
    FailsAt step layout disk .verification failure ↔
      (if step.verify = true then config.verify disk else .ok config) = .error failure := by
  constructor
  · intro fails
    cases fails with
    | verification otherDriver otherArch otherPinned otherFound otherSelected otherMade verifies
        failed =>
        cases driverMade.symm.trans otherDriver
        cases archMade.symm.trans otherArch
        cases pinned.symm.trans otherPinned
        cases found.symm.trans otherFound
        cases selected.symm.trans otherSelected
        cases made.symm.trans otherMade
        rw [if_pos verifies]
        exact failed
  · intro failed
    by_cases verifies : step.verify = true
    · rw [if_pos verifies] at failed
      exact .verification driverMade archMade pinned found selected made verifies failed
    · rw [if_neg verifies] at failed
      cases failed

end

/-! ## Options and the host -/

/-- What is checked after the layout, before a build step looks at anything but its options and the
name of its machine. -/
def checked (options : Options) (machine : Machine) :
    Traced (DriverConfig × Arch × Option KitVersion) := do
  let driver ← options.driverConfig
  let arch ← options.target machine
  let pin ← options.pin
  return (driver, arch, pin)

/-- What a build step does once its options have been checked. -/
def goOn (step : BuildStep) (layout : KitLayout) (disk : Disk) :
    DriverConfig × Arch × Option KitVersion → Traced BuildConfig
  | (driver, arch, pin) => do
      let installations ← (step.search disk).found
      let config ←
        Resolution.resolve layout installations driver arch pin (step.search disk).consulted
      if step.verify then config.verify disk else return config

theorem resolve_eq_bind (step : BuildStep) (disk : Disk) :
    step.resolve disk
      = (do
          let layout ← step.options.kitLayout step.parts
          let options ← checked step.options step.machine
          goOn step layout disk options) := by
  simp only [checked, bind_assoc, pure_bind]
  rfl

theorem resolve_eq_checked (accepted : step.options.kitLayout step.parts = .ok layout)
    (disk : Disk) :
    step.resolve disk = checked step.options step.machine >>= goOn step layout disk := by
  rw [resolve_eq_bind, accepted]
  rfl

theorem outcome_checked (step : BuildStep) :
    (checked step.options step.machine).outcome
      = (do
          let driver ← step.options.driverConfig
          let arch ← (step.options.target step.machine).outcome
          let pin ← step.options.pin
          return (driver, arch, pin)) := by
  simp only [checked, Traced.outcome_bind, Traced.outcome_lift]
  rfl

theorem outcome_goOn (driver : DriverConfig) (arch : Arch) (pin : Option KitVersion) :
    (goOn step layout disk (driver, arch, pin)).outcome
      = (do
          let installations ← (step.search disk).found.outcome
          let installation ← Installation.select installations pin
          let config ←
            Resolution.configure layout installation driver arch (step.search disk).consulted
          if step.verify = true then config.verify disk else .ok config) := by
  simp only [goOn, Resolution.resolve, Traced.outcome_bind, Traced.outcome_lift,
    Traced.outcome_say, Traced.outcome_pure, ok_bind, bind_assoc]
  cases step.verify with
  | false => rfl
  | true => rfl

/-- The check of the options ends as the first three stages do. -/
theorem checked_cases (step : BuildStep) (layout : KitLayout) (disk : Disk) :
    (∃ stage failure, stage.rank < Stage.search.rank ∧
        IsFirstFailure step layout disk stage failure ∧
        (checked step.options step.machine).outcome = .error failure) ∨
      ∃ driver arch pin,
        step.options.driverConfig = .ok driver ∧
          (step.options.target step.machine).outcome = .ok arch ∧ step.options.pin = .ok pin ∧
          (checked step.options step.machine).outcome = .ok (driver, arch, pin) ∧
          PassesBefore step layout disk Stage.search.rank := by
  have begun : PassesBefore step layout disk Stage.driver.rank := fun _ _ before =>
    absurd before (Nat.not_lt_zero _)
  rw [outcome_checked]
  rcases begun.cases .driver fun _ => failsAt_driver_iff with
    ⟨failure, failed, first⟩ | ⟨driver, driverMade, passed⟩
  · exact Or.inl ⟨_, failure, by decide, first, by rw [failed]; rfl⟩
  rw [driverMade, ok_bind]
  rcases passed.cases .target fun _ => failsAt_target_iff with
    ⟨failure, failed, first⟩ | ⟨arch, archMade, passed⟩
  · exact Or.inl ⟨_, failure, by decide, first, by rw [failed]; rfl⟩
  rw [archMade, ok_bind]
  rcases passed.cases .pin fun _ => failsAt_pin_iff with
    ⟨failure, failed, first⟩ | ⟨pin, pinned, passed⟩
  · exact Or.inl ⟨_, failure, by decide, first, by rw [failed]; rfl⟩
  · exact Or.inr ⟨driver, arch, pin, rfl, rfl, pinned, by rw [pinned]; rfl, passed⟩

/-! ## The first failure -/

/-- A build step fails as the first stage that fails, or no stage fails and it succeeds. -/
theorem resolve_cases (accepted : step.options.kitLayout step.parts = .ok layout) (disk : Disk) :
    (∃ stage failure, IsFirstFailure step layout disk stage failure ∧
        (step.resolve disk).outcome = .error failure) ∨
      (∃ config, (step.resolve disk).outcome = .ok config) ∧
        ∀ stage failure, ¬ FailsAt step layout disk stage failure := by
  rw [resolve_eq_checked accepted, Traced.outcome_bind]
  -- Stage by stage: the step ends with the failure, or it goes on with what the stage has made,
  -- and that is what the later stages are asked about.
  rcases checked_cases step layout disk with
    ⟨stage, failure, _, first, failed⟩ |
      ⟨driver, arch, pin, driverMade, archMade, pinned, done, passed⟩
  · exact Or.inl ⟨stage, failure, first, by rw [failed]; rfl⟩
  rw [done, ok_bind, outcome_goOn]
  rcases passed.cases .search fun _ => failsAt_search_iff with
    ⟨failure, failed, first⟩ | ⟨installations, found, passed⟩
  · exact Or.inl ⟨_, failure, first, by rw [failed]; rfl⟩
  rw [found, ok_bind]
  rcases passed.cases .selection fun _ => failsAt_selection_iff pinned found with
    ⟨failure, failed, first⟩ | ⟨installation, selected, passed⟩
  · exact Or.inl ⟨_, failure, first, by rw [failed]; rfl⟩
  rw [selected, ok_bind]
  rcases passed.cases .expansion fun _ =>
      failsAt_expansion_iff driverMade archMade pinned found selected with
    ⟨failure, failed, first⟩ | ⟨made, expanded, passed⟩
  · exact Or.inl ⟨_, failure, first, by rw [failed]; rfl⟩
  rw [expanded, ok_bind]
  rcases passed.cases .verification fun _ =>
      failsAt_verification_iff driverMade archMade pinned found selected expanded with
    ⟨failure, failed, first⟩ | ⟨config, verified, passed⟩
  · exact Or.inl ⟨_, failure, first, failed⟩
  · refine Or.inr ⟨⟨config, verified⟩, fun stage failure => passed stage failure ?_⟩
    cases stage <;> decide

theorem FailsAt.unique {stage : Stage} {failure other : Failure}
    (fails : FailsAt step layout disk stage failure)
    (again : FailsAt step layout disk stage other) : failure = other := by
  have same : ∀ {α : Type} {outcome : Except Failure α},
      outcome = .error failure → outcome = .error other → failure = other :=
    fun failed failedAgain => Except.error.inj (failed.symm.trans failedAgain)
  cases fails with
  | driver failed => exact same failed (failsAt_driver_iff.mp again)
  | target failed => exact same failed (failsAt_target_iff.mp again)
  | pin failed => exact same failed (failsAt_pin_iff.mp again)
  | search failed => exact same failed (failsAt_search_iff.mp again)
  | selection pinned found failed =>
      exact same failed ((failsAt_selection_iff pinned found).mp again)
  | expansion driverMade archMade pinned found selected failed =>
      exact same failed
        ((failsAt_expansion_iff driverMade archMade pinned found selected).mp again)
  | verification driverMade archMade pinned found selected made verifies failed =>
      have failedAgain :=
        (failsAt_verification_iff driverMade archMade pinned found selected made).mp again
      rw [if_pos verifies] at failedAgain
      exact same failed failedAgain

/-- There is one first failure only. -/
theorem IsFirstFailure.unique {stage otherStage : Stage} {failure other : Failure}
    (isFirst : IsFirstFailure step layout disk stage failure)
    (otherIsFirst : IsFirstFailure step layout disk otherStage other) : failure = other := by
  rcases Nat.lt_trichotomy stage.rank otherStage.rank with before | same | after
  · exact absurd isFirst.fails (otherIsFirst.first stage failure before)
  · have sameStage := Stage.eq_of_rank_eq same
    subst sameStage
    exact isFirst.fails.unique otherIsFirst.fails
  · exact absurd otherIsFirst.fails (isFirst.first otherStage other after)

theorem resolve_eq_error_iff (accepted : step.options.kitLayout step.parts = .ok layout)
    {failure : Failure} :
    (step.resolve disk).outcome = .error failure ↔
      ∃ stage, IsFirstFailure step layout disk stage failure := by
  rcases resolve_cases accepted disk with
    ⟨stage, first, isFirst, failed⟩ | ⟨⟨config, resolved⟩, passes⟩
  · rw [failed]
    constructor
    · intro same
      cases same
      exact ⟨stage, isFirst⟩
    · rintro ⟨other, otherIsFirst⟩
      rw [isFirst.unique otherIsFirst]
  · rw [resolved]
    constructor
    · intro impossible
      cases impossible
    · rintro ⟨stage, isFirst⟩
      exact absurd isFirst.fails (passes stage failure)

theorem resolve_isOk_iff (accepted : step.options.kitLayout step.parts = .ok layout) :
    (∃ config, (step.resolve disk).outcome = .ok config) ↔
      ∀ stage failure, ¬ FailsAt step layout disk stage failure := by
  rcases resolve_cases accepted disk with
    ⟨stage, first, isFirst, failed⟩ | ⟨resolved, passes⟩
  · rw [failed]
    constructor
    · rintro ⟨config, impossible⟩
      cases impossible
    · intro passes
      exact absurd isFirst.fails (passes stage first)
  · exact ⟨fun _ => passes, fun _ => resolved⟩

/-! ## Failures and their stages -/

/-- The failures of a stage. -/
inductive Stage.Reports : Stage → Failure → Prop where
  | driver {failure : Failure} (refused : failure.IsRefusal) : Reports .driver failure
  | target {failure : Failure} (refused : failure.IsRefusal) : Reports .target failure
  | pin (text : String) :
      Reports .pin (.invalidOptions (.passedOn (Failure.message (.invalidVersion text))) [])
  | overlongPin : Reports .pin (.misuse .overlongNumeral)
  | search {failure : Failure} (ended : Discovery.IsSearchFailure failure) :
      Reports .search failure
  | selection (pinned : KitVersion) (available : List KitVersion) :
      Reports .selection (.versionMismatch pinned available)
  | expansion {failure : Failure} (misused : failure.IsMisuse) : Reports .expansion failure
  | missing (path : Path) (version : KitVersion) (missing : List Path) :
      Reports .verification (.probe (some path) (.incomplete version missing))
  | unasked (fault : HostFault) : Reports .verification (.host fault)

theorem failsOnly_pin (options : Options) : FailsOnly (Stage.Reports .pin) options.pin := by
  have overlong : FailsOnly (Stage.Reports .pin)
      (Options.refuseMalformed (.error (.misuse .overlongNumeral) : Except Failure KitVersion)) :=
    .error .overlongPin
  unfold Options.pin
  split
  · refine FailsOnly.bind ?_ fun _ => .ok _
    unfold KitVersion.ofDatum Datum.write
    split
    · rw [ok_bind]
      unfold KitVersion.read
      simp only
      split
      · split
        · exact .ok _
        · exact overlong
      · exact .error (.pin _)
    · exact overlong
  · exact .ok none

theorem failsOnly_select {installations : List Installation} (nonempty : installations ≠ [])
    (pin : Option KitVersion) :
    FailsOnly (Stage.Reports .selection) (Installation.select installations pin) := by
  unfold Installation.select
  split
  · exact absurd rfl nonempty
  · exact .ok _
  · split
    · exact .ok _
    · exact .error (.selection _ _)

theorem failsOnly_verify (config : BuildConfig) (disk : Disk) :
    FailsOnly (Stage.Reports .verification) (config.verify disk) := by
  unfold BuildConfig.verify
  split
  · exact .error (.unasked _)
  · exact .ok _
  · exact .error (.missing _ _ _)

theorem ne_nil_of_search {installations : List Installation}
    (found : (step.search disk).found.outcome = .ok installations) : installations ≠ [] := by
  obtain ⟨all, chosen, _⟩ := Discovery.exists_of_discover found
  obtain ⟨findings, _, nonempty, _, _, rfl⟩ :=
    Discovery.exists_findings_of_discover chosen found
  simpa using nonempty

theorem FailsAt.reports {stage : Stage} {failure : Failure}
    (fails : FailsAt step layout disk stage failure) : stage.Reports failure := by
  cases fails with
  | driver failed => exact .driver (step.options.failsOnly_driverConfig failure failed)
  | target failed => exact .target (step.options.failsOnly_target _ failure failed)
  | pin failed => exact failsOnly_pin _ failure failed
  | search failed => exact .search (Discovery.failsOnly_discover _ _ _ _ failure failed)
  | selection _ found failed => exact failsOnly_select (ne_nil_of_search found) _ failure failed
  | expansion _ _ _ _ _ failed =>
      exact .expansion (Resolution.failsOnly_configure _ _ _ _ _ failure failed)
  | verification _ _ _ _ _ _ _ failed => exact failsOnly_verify _ _ failure failed

/-! ## Build steps that never look at the host -/

/-- What is said when a search begins. -/
def searchBegins : Log.Entry := ⟨.info, .locator, "Starting kit discovery"⟩

theorem target_congr (options : Options) {machine other : Machine}
    (sameArch : other.arch = machine.arch) : options.target other = options.target machine := by
  unfold Options.target
  rw [sameArch]

theorem checked_congr (options : Options) {machine other : Machine}
    (sameArch : other.arch = machine.arch) : checked options other = checked options machine := by
  unfold checked
  rw [target_congr options sameArch]

theorem topic_of_mem_checked (options : Options) (machine : Machine) :
    ∀ entry ∈ (checked options machine).log, entry.topic = .options := by
  have silent : ∀ {α : Type} (outcome : Except Failure α),
      ∀ entry ∈ (Traced.silent outcome).log, entry.topic = .options :=
    fun _ _ member => absurd member List.not_mem_nil
  have targetSays : ∀ entry ∈ (options.target machine).log, entry.topic = .options := by
    unfold Options.target
    split
    · exact silent (do Arch.read (← options.targetArch.write))
    · refine Traced.forall_log_bind (fun entry said => ?_) fun _ => silent (Arch.read machine.arch)
      rw [List.mem_singleton.mp said]
  exact Traced.forall_log_bind (silent options.driverConfig) fun _ =>
    Traced.forall_log_bind targetSays fun _ =>
      Traced.forall_log_bind (silent options.pin) fun _ _ member =>
        absurd member List.not_mem_nil

theorem searchBegins_mem_goOn (options : DriverConfig × Arch × Option KitVersion) :
    searchBegins ∈ (goOn step layout disk options).log := by
  have inSearch : searchBegins ∈ (step.search disk).found.log :=
    Traced.mem_log_bind (Traced.mem_log_bind (List.mem_singleton_self _) _) _
  exact Traced.mem_log_bind inSearch _

/-- The options are refused just if one of the first three stages fails. -/
theorem exists_of_not_passesBefore
    (stopped : ¬ PassesBefore step layout disk Stage.search.rank) :
    ∃ failure, (checked step.options step.machine).outcome = .error failure := by
  rcases checked_cases step layout disk with
    ⟨_, failure, _, _, failed⟩ | ⟨_, _, _, _, _, _, _, passed⟩
  · exact ⟨failure, failed⟩
  · exact absurd passed stopped

theorem searchBegins_mem_iff (accepted : step.options.kitLayout step.parts = .ok layout) :
    searchBegins ∈ (step.resolve disk).log ↔
      PassesBefore step layout disk Stage.search.rank := by
  rw [resolve_eq_checked accepted]
  constructor
  · intro said
    by_contra stopped
    obtain ⟨failure, failed⟩ := exists_of_not_passesBefore stopped
    rw [Traced.bind_of_error failed] at said
    exact absurd (topic_of_mem_checked _ _ _ said) (by decide)
  · intro passed
    rcases checked_cases step layout disk with ⟨stage, failure, before, isFirst, _⟩ |
      ⟨_, _, _, _, _, _, done, _⟩
    · exact absurd isFirst.fails (passed stage failure before)
    · exact Traced.mem_log_bind_of_next done (searchBegins_mem_goOn _)

/-- A build step whose options are refused is the same on any two hosts of one name. -/
theorem resolve_congr_of_refused (accepted : step.options.kitLayout step.parts = .ok layout)
    (stopped : ¬ PassesBefore step layout disk Stage.search.rank) {other : BuildStep}
    (sameOptions : other.options = step.options) (sameArch : other.machine.arch = step.machine.arch)
    (otherDisk : Disk) : other.resolve otherDisk = step.resolve disk := by
  obtain ⟨failure, failed⟩ := exists_of_not_passesBefore stopped
  have sameCheck : checked other.options other.machine = checked step.options step.machine := by
    rw [sameOptions, checked_congr step.options sameArch]
  obtain ⟨otherLayout, otherAccepted⟩ :
      ∃ layout, other.options.kitLayout other.parts = .ok layout := by
    rw [sameOptions]
    exact KitLayout.exists_ofDatum_iff.mp ⟨layout, accepted⟩
  rw [resolve_eq_checked accepted, resolve_eq_checked otherAccepted, sameCheck,
    Traced.bind_of_error failed, Traced.bind_of_error failed]

/-- A build step whose layout is accepted fails as the first of its stages that fails, and succeeds
if none does. Each stage has failures of its own. Kits are searched for just if none of the first
three stages fails, and if one of them does, nothing but the name of the machine makes a difference
to what the build step does and says. -/
theorem resolve_by_stages (accepted : step.options.kitLayout step.parts = .ok layout)
    (disk : Disk) :
    (∀ failure, (step.resolve disk).outcome = .error failure ↔
        ∃ stage, IsFirstFailure step layout disk stage failure) ∧
      ((∃ config, (step.resolve disk).outcome = .ok config) ↔
        ∀ stage failure, ¬ FailsAt step layout disk stage failure) ∧
      (∀ stage failure, FailsAt step layout disk stage failure → stage.Reports failure) ∧
      (searchBegins ∈ (step.resolve disk).log ↔
        PassesBefore step layout disk Stage.search.rank) ∧
      (¬ PassesBefore step layout disk Stage.search.rank →
        ∀ (other : BuildStep) (otherDisk : Disk), other.options = step.options →
          other.machine.arch = step.machine.arch →
            other.resolve otherDisk = step.resolve disk) := by
  refine ⟨fun _ => resolve_eq_error_iff accepted, resolve_isOk_iff accepted,
    fun _ _ fails => fails.reports, searchBegins_mem_iff accepted, ?_⟩
  intro stopped other otherDisk sameOptions sameArch
  exact resolve_congr_of_refused accepted stopped sameOptions sameArch otherDisk

/-- Class, architecture and pin make no sense; the class decides, with a kit on the host and
without. -/
theorem resolve_by_stages_all_refused :
    let options : Options :=
      { Options.usual with
        driverClass := .text "KMFD", targetArch := .text "mips", pinnedVersion := .text "ten" }
    let step : BuildStep :=
      { options
        outDir := Path.ofText "out"
        environment := []
        store := .absent
        standard := []
        machine := ⟨"linux", "x64", "6.1"⟩
        verify := true
        parts := .fewest }
    let other : BuildStep :=
      { step with environment := [(Candidate.rootVariable, "kit")], verify := false }
    let disk : Disk :=
      { Disk.empty with
        entries :=
          [["kit"], ["kit", "Lib"], ["kit", "Lib", "10.0"]].map fun names =>
            (⟨names⟩, .directory) }
    step.options.kitLayout step.parts = .ok (.usual .fewest) ∧
      ∃ refused,
        FailsAt step (KitLayout.usual .fewest) Disk.empty .driver refused ∧
          (∃ failure, FailsAt step (KitLayout.usual .fewest) Disk.empty .target failure) ∧
          (∃ failure, FailsAt step (KitLayout.usual .fewest) Disk.empty .pin failure) ∧
          (step.resolve Disk.empty).outcome = .error refused ∧
          searchBegins ∉ (step.resolve Disk.empty).log ∧
          other.resolve disk = step.resolve Disk.empty := by
  intro options step other disk
  have accepted : step.options.kitLayout step.parts = .ok (.usual .fewest) := rfl
  have evaluated :
      (failure? step.options.driverConfig).isSome = true ∧
        (failure? (step.options.target step.machine).outcome).isSome = true ∧
        (failure? step.options.pin).isSome = true := by
    decide +kernel
  obtain ⟨refused, isRefused⟩ := Option.isSome_iff_exists.mp evaluated.1
  obtain ⟨targetFailure, targetRefused⟩ := Option.isSome_iff_exists.mp evaluated.2.1
  obtain ⟨pinFailure, pinRefused⟩ := Option.isSome_iff_exists.mp evaluated.2.2
  have driverFails : FailsAt step (KitLayout.usual .fewest) Disk.empty .driver refused :=
    .driver (eq_error_of_failure? isRefused)
  have stopped :
      ¬ PassesBefore step (KitLayout.usual .fewest) Disk.empty Stage.search.rank := fun passed =>
    passed .driver refused (by decide) driverFails
  obtain ⟨fails, _, _, begins, sameOnHosts⟩ := resolve_by_stages accepted Disk.empty
  refine ⟨accepted, refused, driverFails, ⟨targetFailure, .target ?_⟩, ⟨pinFailure, .pin ?_⟩,
    ?_, ?_, ?_⟩
  · exact eq_error_of_failure? targetRefused
  · exact eq_error_of_failure? pinRefused
  · apply (fails refused).mpr
    exact ⟨.driver, driverFails, fun _ _ before => absurd before (Nat.not_lt_zero _)⟩
  · exact fun said => stopped (begins.mp said)
  · exact sameOnHosts stopped other disk rfl rfl

end DriverKit.BuildStep
