import DriverKit.Proofs.BuildStep.Triggers
import DriverKit.Proofs.Cache.File
import DriverKit.Proofs.Disk.Atomicity
import DriverKit.Proofs.Options

/-!
# Build steps are all or nothing

A build step that comes to its end has told the orchestrator all directives of a configuration and
keeps the same configuration in its cache. One that fails has told it nothing. Either leaves every
other place of the disk as it was, unless it lies on the way to the output directory and was empty:
there a directory may have been made. That is also all that a failed step can leave of its cache
file.
-/

namespace DriverKit

/-- The output directory of a build step and the directories that it lies in. -/
def BuildStep.directories (step : BuildStep) : List Path :=
  Disk.lineage step.outDir step.outDir.steps.length

/-- The cache file of a build step. -/
def BuildStep.cacheFile (step : BuildStep) : Path := Cache.file step.outDir Cache.usualName

theorem BuildStep.sameOrMade_of_altered {step : BuildStep} {before after : Disk}
    {files : List Path} (altered : before.Altered after step.directories files) {place : Place}
    (notFile : ∀ file ∈ files, place ≠ before.destination file) :
    before.SameOrMade after step.cacheFile place := by
  refine Disk.sameOrMade_of_altered ?_ notFile
  rw [cacheFile, Cache.parent_file]
  exact altered

namespace BuildOutcome

/-- A build step has come to its end: the orchestrator has been told the directives of the
configuration that was resolved, the cache file has the text of the same configuration, and nothing
else has changed but that directories on the way to it have been made. -/
structure IsComplete (outcome : BuildOutcome) (step : BuildStep) (before : Disk)
    (config : BuildConfig) : Prop where
  resolved : (step.resolve before).outcome = .ok config
  result : outcome.result.outcome = .ok ⟨config, Directive.emit config, step.cacheFile⟩
  stream : outcome.stream = Directive.written (Directive.emit config)
  cache : outcome.disk.read step.cacheFile = .ok (Cache.text config).toUTF8
  others : ∀ place, place ≠ before.destination step.cacheFile →
    before.SameOrMade outcome.disk step.cacheFile place
  disk : before.Altered outcome.disk step.directories [step.cacheFile]

/-- A build step has failed: the orchestrator has been told nothing, and every place of the disk is
as before, unless it has become a directory on the way to the cache file. The place of the cache
file is as before if it is not on that way itself. -/
structure IsWithdrawn (outcome : BuildOutcome) (step : BuildStep) (before : Disk) : Prop where
  result : ∃ failure, outcome.result.outcome = .error failure
  stream : outcome.stream = ""
  places : ∀ place, before.SameOrMade outcome.disk step.cacheFile place
  cache : before.destination step.cacheFile ∉ before.way step.cacheFile →
    outcome.disk.at? (before.destination step.cacheFile)
      = before.at? (before.destination step.cacheFile)
  disk : before.Altered outcome.disk step.directories []

theorem IsWithdrawn.of_altered {outcome : BuildOutcome} {step : BuildStep} {before : Disk}
    {failure : Failure} (result : outcome.result.outcome = .error failure)
    (stream : outcome.stream = "")
    (altered : before.Altered outcome.disk step.directories []) :
    outcome.IsWithdrawn step before := by
  have places : ∀ place, before.SameOrMade outcome.disk step.cacheFile place := fun place =>
    BuildStep.sameOrMade_of_altered altered fun _ isFile => absurd isFile List.not_mem_nil
  exact
    { result := ⟨failure, result⟩
      stream := stream
      places := places
      cache := fun notOnWay => (places _).eq_of_not_mem notOnWay
      disk := altered }

end BuildOutcome

namespace BuildStep

/-! ## The configuration of a build step -/

/-- The versions that a search finds were read from the names of directories. -/
theorem exists_text_of_search {step : BuildStep} {disk : Disk} {installations : List Installation}
    (found : (step.search disk).found.outcome = .ok installations) :
    ∀ installation ∈ installations, ∃ text, KitVersion.read text = .ok installation.version := by
  intro installation member
  obtain ⟨candidates, _, rfl⟩ := Discovery.exists_of_discover found
  have inReadings := (KitVersion.newestFirst_perm Installation.version _).mem_iff.mp member
  obtain ⟨⟨name, reading⟩, inCandidates, rfl⟩ := List.mem_map.mp inReadings
  obtain ⟨candidate, _, isReading⟩ := List.mem_flatMap.mp inCandidates
  exact ⟨name, (Discovery.listed_of_mem_readings isReading).2.2⟩

/-- The configuration of a build step is one of those that come up. -/
theorem produced_of_resolve {step : BuildStep} {disk : Disk} {config : BuildConfig}
    (resolved : (step.resolve disk).outcome = .ok config) : Cache.Produced config := by
  have selected := (resolve_eq_ok_iff.mp resolved).1
  simp only [BuildStep.selected, Traced.outcome_bind_eq_ok_iff, Traced.outcome_lift] at selected
  obtain ⟨_, _, driver, checked, _, _, _, _, installations, found, made⟩ := selected
  refine .resolved (exists_text_of_search found) (fun number isNumber => ?_) made
  have asked := (Options.asked_of_driverConfig checked).2
  rw [isNumber] at asked
  exact (Options.usual_or_read_of_askedVersion asked).symm

/-! ## The end of a build step -/

theorem resolve_of_plan {step : BuildStep} {disk : Disk} {config : BuildConfig}
    {directives : List Directive}
    (planned : (step.plan disk).outcome = .ok (config, directives)) :
    (step.resolve disk).outcome = .ok config ∧ directives = Directive.emit config := by
  simp only [plan, Traced.outcome_bind_eq_ok_iff] at planned
  obtain ⟨resolved, found, _, _, result⟩ := planned
  cases result
  exact ⟨found, rfl⟩

theorem plan_of_resolve {step : BuildStep} {disk : Disk} {config : BuildConfig}
    (resolved : (step.resolve disk).outcome = .ok config) :
    (step.plan disk).outcome = .ok (config, Directive.emit config) := by
  rw [plan, Traced.outcome_bind, resolved, ok_bind]
  rfl

theorem configure_of_plan_eq_error {step : BuildStep} {disk : Disk} {failure : Failure}
    (planned : (step.plan disk).outcome = .error failure) (faults : Disk.ReplacementFaults) :
    (step.configure disk faults).result.outcome = .error failure ∧
      (step.configure disk faults).stream = "" ∧ (step.configure disk faults).disk = disk := by
  unfold configure
  simp only [planned, and_self]

/-- A build step that has a plan ends as its save does. -/
theorem configure_of_plan_eq_ok {step : BuildStep} {disk : Disk} {config : BuildConfig}
    {directives : List Directive}
    (planned : (step.plan disk).outcome = .ok (config, directives))
    (faults : Disk.ReplacementFaults) :
    let saved := Cache.save disk step.cacheFile config faults
    let outcome := step.configure disk faults
    outcome.result.outcome
        = (fun cacheFile => (⟨config, directives, cacheFile⟩ : Configured)) <$> saved.1.outcome ∧
      (outcome.stream
        = match saved.1.outcome with
          | .ok _ => Directive.written directives
          | .error _ => "") ∧
        outcome.disk = saved.2 := by
  intro saved outcome
  have saves : Cache.save disk (Cache.file step.outDir Cache.usualName) config faults = saved := rfl
  cases finished : saved.1.outcome with
  | error failure => simp [outcome, configure, planned, saves, finished]
  | ok cacheFile => simp [outcome, configure, planned, saves, finished]

/-- A build step either comes to its end or fails, without a trace as long as the host removes
temporary files. -/
theorem configure_cases (step : BuildStep) {disk : Disk} (tree : disk.IsTree)
    (faults : Disk.ReplacementFaults) :
    (∃ config, (step.configure disk faults).IsComplete step disk config) ∨
      (∃ failure, (step.configure disk faults).result.outcome = .error failure) ∧
        (faults.removeTemporary = none → (step.configure disk faults).IsWithdrawn step disk) := by
  cases planned : (step.plan disk).outcome with
  | error failure =>
      obtain ⟨result, stream, unchanged⟩ := configure_of_plan_eq_error planned faults
      refine Or.inr ⟨⟨failure, result⟩, fun _ => .of_altered result stream ?_⟩
      rw [unchanged]
      exact Disk.Altered.refl disk
  | ok plan =>
      obtain ⟨config, directives⟩ := plan
      obtain ⟨resolved, rfl⟩ := resolve_of_plan planned
      obtain ⟨result, stream, changed⟩ := configure_of_plan_eq_ok planned faults
      have saved := Cache.save_cases tree step.outDir config faults
      rw [show Cache.file step.outDir Cache.usualName = step.cacheFile from rfl] at saved
      simp only at saved
      obtain ⟨_, ⟨⟨failure, failed⟩, altered⟩ | ⟨finished, readBack, altered⟩⟩ := saved
      · rw [failed] at result stream
        refine Or.inr ⟨⟨failure, result⟩, fun removes => .of_altered result stream ?_⟩
        rw [changed]
        exact altered removes
      · rw [finished] at result stream
        rw [← changed] at readBack altered
        refine Or.inl ⟨config, resolved, result, stream, readBack, fun place elsewhere => ?_,
          altered⟩
        exact sameOrMade_of_altered altered (by simpa using elsewhere)

/-- A build step that succeeds has come to its end with the configuration that it gives. -/
theorem isComplete_of_configure {step : BuildStep} {disk : Disk} (tree : disk.IsTree)
    {faults : Disk.ReplacementFaults} {configured : Configured}
    (success : (step.configure disk faults).result.outcome = .ok configured) :
    (step.configure disk faults).IsComplete step disk configured.config := by
  rcases step.configure_cases tree faults with ⟨config, complete⟩ | ⟨⟨failure, failed⟩, _⟩
  · have same := complete.result
    rw [success] at same
    cases same
    exact complete
  · rw [success] at failed
    cases failed

end BuildStep

end DriverKit
