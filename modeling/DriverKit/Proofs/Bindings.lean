import DriverKit.Bindings.Generator
import DriverKit.Proofs.BuildStep

/-!
# Bindings from the kept configuration

Generating bindings takes the configuration that the last build step kept, and looks at no kit, no
environment and no store. As long as the cache file is left alone, the command is the one for the
configuration of that build step, whatever else has changed.
-/

namespace DriverKit.Bindings

/-! ## One generation -/

/-- The command that a generation runs. It runs one if the header is a file, the program is found
and the directory of the output can be made, and then for the flags that it is given. -/
theorem command_generate_eq_some_iff {disk : Disk} {tool : Tool} {program : String}
    {header output : Path} {flags words : List String} :
    (generate disk tool program header flags output).command = some words ↔
      words = [program, header.text, "-o", output.text] ++ flags ∧
        disk.isFile header = .ok true ∧ tool.found.isSome = true ∧
          (disk.makeDirectories output.parent none).1 = .ok () := by
  unfold generate
  generalize disk.isFile header = isThere
  generalize tool.found = found
  generalize disk.makeDirectories output.parent none = made
  obtain ⟨outcome, changed⟩ := made
  cases isThere with
  | error fault => simp only [reduceCtorEq, false_and, and_false]
  | ok present =>
      cases present with
      | false => simp only [reduceCtorEq, Except.ok.injEq, Bool.false_eq_true, false_and, and_false]
      | true =>
          cases found with
          | none =>
              simp only [Option.isNone_none, if_true, reduceCtorEq, Option.isSome_none,
                Bool.false_eq_true, false_and, and_false]
          | some place =>
              cases outcome with
              | error failure =>
                  simp only [Option.isNone_some, Bool.false_eq_true, if_false, reduceCtorEq,
                    and_false]
              | ok _ =>
                  show some (command program header flags output) = some words ↔ _
                  rw [Option.some.injEq, eq_comm]
                  exact ⟨fun same => ⟨same, rfl, rfl, rfl⟩, fun all => all.1⟩

variable {loader : Yaml.Loader}

theorem generateCached_of_load {disk : Disk} {outDir : Path} {config : BuildConfig}
    (loaded : (Cache.load loader disk (Cache.file outDir Cache.usualName)).outcome
      = .ok (some config))
    (tool : Tool) (program : String) (header output : Path) :
    let cached := generateCached loader disk tool program outDir header output
    let direct := generate disk tool program header (flags config .usual) output
    cached.result.outcome = direct.result.outcome ∧ cached.command = direct.command ∧
      cached.disk = direct.disk := by
  unfold generateCached
  simp only [loaded, Traced.outcome_bind, ok_bind, and_self]

/-! ## After a build step -/

theorem load_of_configure {step : BuildStep} {disk later : Disk} (tree : disk.IsTree)
    {faults : Disk.ReplacementFaults} {configured : Configured}
    (success : (step.configure disk faults).result.outcome = .ok configured)
    (readsBack : Cache.ReadsBack loader configured.config)
    (alone : later.read step.cacheFile = (step.configure disk faults).disk.read step.cacheFile) :
    (Cache.load loader later step.cacheFile).outcome = .ok (some configured.config) := by
  have complete := BuildStep.isComplete_of_configure tree success
  have produced := BuildStep.produced_of_resolve complete.resolved
  have kept := alone.trans complete.cache
  exact Cache.load_eq_some (Cache.isReadable_of_produced produced) readsBack kept

/-- After a build step that succeeded, bindings are generated with the flags of its configuration,
as if it were handed over and not kept in a file, on every host that has left the file alone. -/
theorem generateCached_of_configure {step : BuildStep} {disk later : Disk} (tree : disk.IsTree)
    {faults : Disk.ReplacementFaults} {configured : Configured}
    (success : (step.configure disk faults).result.outcome = .ok configured)
    (readsBack : Cache.ReadsBack loader configured.config)
    (alone : later.read step.cacheFile = (step.configure disk faults).disk.read step.cacheFile)
    (tool : Tool) (program : String) (header output : Path) :
    let flags := flags configured.config .usual
    let cached := generateCached loader later tool program step.outDir header output
    let direct := generate later tool program header flags output
    (cached.result.outcome = direct.result.outcome ∧ cached.command = direct.command ∧
        cached.disk = direct.disk) ∧
      ∀ words,
        cached.command = some words ↔
          words = [program, header.text, "-o", output.text] ++ flags ∧
            later.isFile header = .ok true ∧ tool.found.isSome = true ∧
              (later.makeDirectories output.parent none).1 = .ok () := by
  have loaded := load_of_configure tree success readsBack alone
  have same := generateCached_of_load loaded tool program header output
  refine ⟨same, fun words => ?_⟩
  rw [same.2.1]
  exact command_generate_eq_some_iff

/-- A host on which the kit is gone, and which has a header that was not there before. -/
theorem generateCached_of_configure_removed_kit :
    let loader := Yaml.Loader.ofLevels 8
    let step : BuildStep :=
      { options :=
          { Options.usual with
            driverClass := .text "WDM"
            targetArch := .text "x64"
            layout := .map
              [(.text "include_tiers", .map [(.text "WDM", .list [])]),
                (.text "lib_tiers", .map [(.text "WDM", .list [])])] }
        outDir := Path.ofText "out"
        environment := [(Candidate.rootVariable, "kit")]
        store := .absent
        standard := []
        machine := ⟨"linux", "x64", "6.1"⟩
        verify := false
        parts := .fewest }
    let disk : Disk :=
      { Disk.empty with
        entries :=
          [["kit"], ["kit", "Lib"], ["kit", "Lib", "10.0"]].map fun names =>
            (⟨names⟩, .directory) }
    ∃ (configured : Configured) (later : Disk),
      disk.IsTree ∧ (step.configure disk .none).result.outcome = .ok configured ∧
        Cache.ReadsBack loader configured.config ∧
          later.read step.cacheFile = (step.configure disk .none).disk.read step.cacheFile ∧
            later.isDirectory (Path.ofText "kit") = .ok false ∧
              (generateCached loader later ⟨some (Path.ofText "/bin/bindgen"), .vanished⟩ "bindgen"
                  step.outDir (Path.ofText "driver.h") (Path.ofText "bindings.rs")).command
                = some
                    (["bindgen", "driver.h", "-o", "bindings.rs"]
                      ++ flags configured.config .usual) := by
  intro loader step disk
  have tree : disk.IsTree := Disk.isTree_of_entries (by decide)
  have evaluated :
      (step.configure disk .none).result.outcome.toOption.any
          (fun configured => Cache.readsBack 8 configured.config)
        = true := by decide +kernel
  obtain ⟨configured, made, isMatch⟩ := (Option.any_eq_true _ _).mp evaluated
  have success : (step.configure disk .none).result.outcome = .ok configured :=
    eq_ok_of_toOption made
  have readsBack : Cache.ReadsBack loader configured.config := Cache.readsBack_ofLevels isMatch
  let later : Disk :=
    { Disk.empty with
      entries :=
        [(⟨["out"]⟩, .directory),
          (⟨["out", Cache.usualName]⟩, .file (Cache.text configured.config).toUTF8),
          (⟨["driver.h"]⟩, .file .empty)] }
  have kept : later.read step.cacheFile = .ok (Cache.text configured.config).toUTF8 := rfl
  have complete := BuildStep.isComplete_of_configure tree success
  have alone : later.read step.cacheFile = (step.configure disk .none).disk.read step.cacheFile :=
    kept.trans complete.cache.symm
  have generated :=
    generateCached_of_configure tree success readsBack alone
      ⟨some (Path.ofText "/bin/bindgen"), .vanished⟩ "bindgen" (Path.ofText "driver.h")
      (Path.ofText "bindings.rs")
  have gone : later.isDirectory (Path.ofText "kit") = .ok false := rfl
  have header : later.isFile (Path.ofText "driver.h") = .ok true := rfl
  have room : (later.makeDirectories (Path.ofText "bindings.rs").parent none).1 = .ok () := rfl
  have ran := (generated.2 _).mpr ⟨rfl, header, rfl, room⟩
  exact ⟨configured, later, tree, success, readsBack, alone, gone, ran⟩

end DriverKit.Bindings
