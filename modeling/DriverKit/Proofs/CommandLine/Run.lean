import DriverKit.CommandLine.Run
import DriverKit.Proofs.BuildStep

/-!
# What the code of a program run says

The program ends with code 0 only if what it was asked for has come to its end. Together with what
is said of build steps this makes the code a promise about the output and the disk.
-/

namespace DriverKit.CommandLine

theorem exists_of_ended {α : Type} {traced : Traced α} (success : (ended traced).1 = .ok 0) :
    ∃ value, traced.outcome = .ok value := by
  unfold ended at success
  split at success
  · rename_i value finished
    exact ⟨value, finished⟩
  · split at success
    · cases success
    · cases success

/-- A build step that is run with loaded options ends as it does by itself. -/
theorem configure_of_load {host : Host} {outDir : Path} {optionsFile : Option Path} {verify : Bool}
    {built : Configured}
    (success : (configure host outDir optionsFile verify).result.outcome = .ok built) :
    ∃ options,
      (Options.load host.loader host.disk host.environment optionsFile).outcome = .ok options ∧
        let outcome := (buildStep host options outDir verify).configure host.disk host.faults
        outcome.result.outcome = .ok built ∧
          (configure host outDir optionsFile verify).stream = outcome.stream ∧
          (configure host outDir optionsFile verify).disk = outcome.disk := by
  unfold configure at success ⊢
  simp only at success ⊢
  split at success
  · cases success
  · rename_i options loaded
    obtain ⟨_, _, finished⟩ := Traced.outcome_bind_eq_ok_iff.mp success
    exact ⟨options, loaded, finished, rfl, rfl⟩

/-- Tells whether the program is asked for a build step. -/
def asksForBuildStep : Except Halt Invocation → Bool
  | .ok ⟨_, some (.configure _ _ _)⟩ => true
  | _ => false

theorem exists_of_asksForBuildStep {reading : Except Halt Invocation}
    (asked : asksForBuildStep reading = true) :
    ∃ verbosity outDir optionsFile verify,
      reading = .ok ⟨verbosity, some (.configure outDir optionsFile verify)⟩ := by
  unfold asksForBuildStep at asked
  split at asked
  · rename_i verbosity outDir optionsFile verify
    exact ⟨verbosity, outDir, optionsFile, verify, rfl⟩
  · cases asked

/-- A build step either comes to its end or fails without a trace, and the program ends with code 0
for a build step only in the first case, where it has written the directives to its output. -/
theorem configure_all_or_nothing {host : Host} (tree : host.disk.IsTree)
    (removes : host.faults.removeTemporary = none) :
    (∀ step : BuildStep,
      let outcome := step.configure host.disk host.faults
      (∃ config, outcome.IsComplete step host.disk config) ∨
        outcome.IsWithdrawn step host.disk) ∧
      ∀ {arguments : List String} {verbosity : Verbosity} {outDir optionsFile : Option Path}
        {verify : Bool},
        Invocation.read host.environment arguments
            = .ok ⟨verbosity, some (.configure outDir optionsFile verify)⟩ →
          (run host arguments).code = .ok 0 →
            ∃ directory options config,
              outDir = some directory ∧
                (Options.load host.loader host.disk host.environment optionsFile).outcome =
                  .ok options ∧
                let step := buildStep host options directory verify
                let outcome := step.configure host.disk host.faults
                outcome.IsComplete step host.disk config ∧
                  (run host arguments).output = .text outcome.stream ∧
                  (run host arguments).disk = outcome.disk := by
  refine ⟨fun step => ?_, ?_⟩
  · exact (step.configure_cases tree host.faults).imp_right fun failed => failed.2 removes
  intro arguments verbosity outDir optionsFile verify understood success
  have running :
      run host arguments = (Command.configure outDir optionsFile verify).run host verbosity := by
    simp only [run, understood]
  rw [running] at success ⊢
  cases outDir with
  | none => cases success
  | some directory =>
      obtain ⟨built, finished⟩ := exists_of_ended success
      obtain ⟨options, loaded, finishedAlone, stream, disk⟩ := configure_of_load finished
      have complete := BuildStep.isComplete_of_configure tree finishedAlone
      exact ⟨directory, options, built.config, rfl, loaded, complete,
        congrArg Written.text stream, disk⟩

/-- With a kit on the disk the program comes to its end. -/
theorem configure_all_or_nothing_kit :
    let host : Host :=
      { loader := .ofLevels 8
        parts := .fewest
        disk :=
          { Disk.empty with
            entries :=
              [["kit"], ["kit", "Lib"], ["kit", "Lib", "10.0"]].map fun names =>
                (⟨names⟩, .directory) }
        environment := [(Candidate.rootVariable, "kit")]
        registry := .absent
        machine := ⟨"linux", "x64", "6.1"⟩
        tool := fun _ => ⟨none, .vanished⟩
        faults := .none }
    let arguments := ["configure", "--out-dir", "out", "--no-verify"]
    host.disk.IsTree ∧ host.faults.removeTemporary = none ∧
      (run host arguments).code = .ok 0 ∧
        ∃ directory options config verify,
          let step := buildStep host options directory verify
          (step.configure host.disk host.faults).IsComplete step host.disk config := by
  intro host arguments
  have tree : host.disk.IsTree := Disk.isTree_of_entries (by decide)
  have success : (run host arguments).code = .ok 0 := eq_ok_of_toOption (by decide +kernel)
  have asked : asksForBuildStep (Invocation.read host.environment arguments) = true := by
    decide +kernel
  obtain ⟨verbosity, outDir, optionsFile, verify, understood⟩ := exists_of_asksForBuildStep asked
  obtain ⟨directory, options, config, _, _, complete, _⟩ :=
    (configure_all_or_nothing tree rfl).2 understood success
  exact ⟨tree, rfl, success, directory, options, config, verify, complete⟩

/-- A build step whose output directory is reached through the place of its cache file. It fails,
and a directory is left where the cache file is looked for, though nothing was there before. -/
theorem configure_makes_cache_directory :
    let step : BuildStep :=
      { options := Options.usual
        outDir := Path.ofText "wdk-config.yaml/.."
        environment := [(Candidate.rootVariable, "kit")]
        store := .absent
        standard := []
        machine := ⟨"linux", "x64", "6.1"⟩
        verify := false
        parts := .fewest }
    let disk : Disk :=
      { Disk.empty with
        entries :=
          [["kit"], ["kit", "Lib"], ["kit", "Lib", "10.0"]].map fun names =>
            (⟨names⟩, .directory) }
    let outcome := step.configure disk .none
    disk.IsTree ∧ (∃ failure, outcome.result.outcome = .error failure) ∧ outcome.stream = "" ∧
      disk.contains step.cacheFile = .ok false ∧
        outcome.disk.isDirectory step.cacheFile = .ok true := by
  intro step disk outcome
  have evaluated :
      (failure? outcome.result.outcome).isSome = true ∧ outcome.stream = "" ∧
        outcome.disk.isDirectory step.cacheFile = .ok true := by
    decide +kernel
  obtain ⟨isFailure, silent, left⟩ := evaluated
  obtain ⟨failure, failed⟩ := Option.isSome_iff_exists.mp isFailure
  exact
    ⟨Disk.isTree_of_entries (by decide), ⟨failure, eq_error_of_failure? failed⟩, silent, rfl, left⟩

end DriverKit.CommandLine
