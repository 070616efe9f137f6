import DriverKit.Proofs.Bindings.Arguments
import DriverKit.Proofs.BuildStep

/-!
# What verification changes

A build step that verifies its configuration differs from one that does not in one thing: it fails
if a directory of the configuration is not there, and says which ones. It is the same configuration
otherwise, the same failures come before, and the same is said on the way. Where the host does not
answer for one of the directories, it is that refusal the build step fails with.

So after a build step that has verified its configuration, there are all the directories that the
orchestrator and the binding generator are told to look in.
-/

namespace DriverKit

/-! ## Missing directories -/

/-- The host does not answer what is at a path. -/
def Disk.refusesToAnswer (disk : Disk) (path : Path) : Bool :=
  decide (disk.place path = .error .overlong)

/-- There is no directory at a path. -/
def Disk.lacksDirectory (disk : Disk) (path : Path) : Bool :=
  decide (disk.isDirectory path = .ok false)

/-- What is missing is told in the order of the paths, unless the host does not answer for one. -/
theorem Disk.missing_eq {disk : Disk} :
    ∀ {paths : List Path},
      disk.missing paths =
        match paths.find? disk.refusesToAnswer with
        | some path => .error (.overlong path.text)
        | none => .ok (paths.filter disk.lacksDirectory)
  | [] => rfl
  | path :: rest => by
      cases asked : disk.isDirectory path with
      | error fault =>
          obtain ⟨overlong, rfl⟩ := isDirectory_eq_error_iff.mp asked
          have refuses : disk.refusesToAnswer path = true := decide_eq_true overlong
          rw [missing, asked, List.find?_cons_of_pos refuses]
          rfl
      | ok isThere =>
          have answers : ¬ disk.refusesToAnswer path = true := by
            intro refuses
            have overlong := of_decide_eq_true refuses
            rw [isDirectory_eq_error_iff.mpr ⟨overlong, rfl⟩] at asked
            cases asked
          rw [missing, asked, ok_bind, missing_eq, List.find?_cons_of_neg answers]
          cases rest.find? disk.refusesToAnswer with
          | some other => rfl
          | none =>
              have lacks : disk.lacksDirectory path = !isThere := by
                rw [lacksDirectory, asked]
                cases isThere <;> rfl
              rw [List.filter_cons, lacks]
              cases isThere <;> rfl

namespace BuildConfig

def directories (config : BuildConfig) : List Path := config.includeDirs ++ config.libDirs

/-- What verification refuses a configuration with. -/
inductive IsRefused (config : BuildConfig) (disk : Disk) : Failure → Prop
  | incomplete {first : Path} {rest : List Path}
      (answers : ∀ path ∈ config.directories, disk.refusesToAnswer path = false)
      (missing : config.directories.filter disk.lacksDirectory = first :: rest) :
      IsRefused config disk
        (.probe (some first) (.incomplete config.key.version (first :: rest)))
  | unanswered {path : Path}
      (refuses : config.directories.find? disk.refusesToAnswer = some path) :
      IsRefused config disk (.host (.overlong path.text))

theorem verify_eq_error_iff {config : BuildConfig} {disk : Disk} {failure : Failure} :
    config.verify disk = .error failure ↔ config.IsRefused disk failure := by
  have asked : config.missingDirectories disk =
      match config.directories.find? disk.refusesToAnswer with
      | some path => .error (.overlong path.text)
      | none => .ok (config.directories.filter disk.lacksDirectory) := Disk.missing_eq
  rw [verify, asked]
  constructor
  · intro failed
    cases found : config.directories.find? disk.refusesToAnswer with
    | some path =>
        rw [found] at failed
        cases failed
        exact .unanswered found
    | none =>
        have answers : ∀ path ∈ config.directories, disk.refusesToAnswer path = false := by
          simpa using found
        rw [found] at failed
        cases missing : config.directories.filter disk.lacksDirectory with
        | nil =>
            rw [missing] at failed
            cases failed
        | cons first rest =>
            rw [missing] at failed
            cases failed
            exact .incomplete answers missing
  · intro refused
    cases refused with
    | incomplete answers missing =>
        have allAnswer : config.directories.find? disk.refusesToAnswer = none := by
          simpa using answers
        rw [allAnswer, missing]
    | unanswered refuses => rw [refuses]

end BuildConfig

namespace BuildStep

/-! ## Build steps with and without it -/

/-- A build step without verification. -/
def lenient (step : BuildStep) : BuildStep := { step with verify := false }

/-- A build step with verification. -/
def strict (step : BuildStep) : BuildStep := { step with verify := true }

/-- Verification is the last thing that a build step does for its configuration. -/
theorem resolve_strict (step : BuildStep) (disk : Disk) :
    step.strict.resolve disk =
      step.lenient.resolve disk >>= fun config =>
        (liftM (config.verify disk) : Traced BuildConfig) := by
  simp only [resolve, bind_assoc]
  rfl

theorem log_resolve_strict (step : BuildStep) (disk : Disk) :
    (step.strict.resolve disk).log = (step.lenient.resolve disk).log := by
  rw [resolve_strict]
  generalize step.lenient.resolve disk = made
  obtain ⟨outcome, log⟩ := made
  cases outcome with
  | error failure => rfl
  | ok config => exact List.append_nil log

theorem outcome_resolve_strict (step : BuildStep) (disk : Disk) :
    (step.strict.resolve disk).outcome =
      (step.lenient.resolve disk).outcome >>= fun config => config.verify disk := by
  rw [resolve_strict, Traced.outcome_bind]
  rfl

/-! ## What is told after it -/

/-- After a build step that has verified its configuration, its directories are there. -/
theorem isDirectory_of_configure_strict {step : BuildStep} {disk : Disk} (tree : disk.IsTree)
    {faults : Disk.ReplacementFaults} {configured : Configured}
    (success : (step.strict.configure disk faults).result.outcome = .ok configured) :
    ∀ path ∈ configured.config.directories,
      (step.strict.configure disk faults).disk.isDirectory path = .ok true := by
  intro path member
  have complete := isComplete_of_configure tree success
  have present := (resolve_eq_ok_iff.mp complete.resolved).2 rfl path member
  exact Disk.isDirectory_of_keepsDirectories complete.disk.keepsDirectories present

theorem directives_of_configure {step : BuildStep} {disk : Disk} (tree : disk.IsTree)
    {faults : Disk.ReplacementFaults} {configured : Configured}
    (success : (step.configure disk faults).result.outcome = .ok configured) :
    configured.directives = Directive.emit configured.config := by
  have complete := (isComplete_of_configure tree success).result
  rw [success] at complete
  exact congrArg Configured.directives (Except.ok.inj complete)

theorem searchPath_mem_emit_iff {config : BuildConfig} {path : Path} :
    .searchPath path ∈ Directive.emit config ↔ path ∈ config.libDirs := by
  have notOfDriver : .searchPath path ∉ Directive.ofDriver config.key.driver := by
    unfold Directive.ofDriver
    cases config.key.driver.framework? <;> simp
  simp [Directive.emit, notOfDriver, mem_distinct]

theorem exists_of_headerFlag {config : BuildConfig} {argument : String}
    (member : argument ∈ Bindings.flags config .usual)
    (isHeader : Bindings.starts "-I" argument = true) :
    ∃ path ∈ config.includeDirs, argument = Bindings.headerFlag path := by
  have kept : argument ∈ Bindings.Kind.header.flags config := by
    rw [← Bindings.filter_flags config .header]
    exact List.mem_filter.mpr ⟨member, isHeader⟩
  obtain ⟨path, isDir, same⟩ := List.mem_map.mp kept
  exact ⟨path, isDir, same.symm⟩

/-! ## What verification changes -/

/-- Verification changes nothing but that a build step fails if a directory of its configuration is
not there: it names the first one and tells all of them with their number, headers before libraries,
unless the host does not answer for one. What failed before fails in the same way, and nothing else
is said. After a build step that has verified its configuration there is every directory that the
orchestrator and the binding generator are told. -/
theorem verification_only_refuses (step : BuildStep) {disk : Disk} (tree : disk.IsTree) :
    (step.strict.resolve disk).log = (step.lenient.resolve disk).log ∧
      (∀ failure, (step.lenient.resolve disk).outcome = .error failure →
        (step.strict.resolve disk).outcome = .error failure) ∧
      (∀ config, (step.lenient.resolve disk).outcome = .ok config →
        (∀ verified, (step.strict.resolve disk).outcome = .ok verified ↔
            verified = config ∧
              ∀ path ∈ config.directories, disk.isDirectory path = .ok true) ∧
          ∀ failure, (step.strict.resolve disk).outcome = .error failure ↔
            config.IsRefused disk failure) ∧
      (∀ version first rest,
        (Failure.probe (some first) (.incomplete version (first :: rest))).message
          = "Failed to probe kit installation" ++ (" at " ++ first.text) ++ ": "
            ++ ("kit " ++ version.text ++ " is missing " ++ Nat.repr (rest.length + 1)
              ++ " required director" ++ (if rest.isEmpty then "y" else "ies") ++ ": "
              ++ ", ".intercalate (first.text :: rest.map Path.text))) ∧
      ∀ faults configured,
        (step.strict.configure disk faults).result.outcome = .ok configured →
          let after := (step.strict.configure disk faults).disk
          (∀ path, .searchPath path ∈ configured.directives → after.isDirectory path = .ok true) ∧
            ∀ argument ∈ Bindings.flags configured.config .usual,
              Bindings.starts "-I" argument = true →
                ∃ path, argument = Bindings.headerFlag path ∧
                  after.isDirectory path = .ok true := by
  refine ⟨log_resolve_strict step disk, fun failure failed => ?_, fun config resolved => ?_,
    fun version first rest => ?_, fun faults configured success => ?_⟩
  · rw [outcome_resolve_strict, failed]
    rfl
  · rw [outcome_resolve_strict, resolved, ok_bind]
    refine ⟨fun verified => ?_, fun failure => BuildConfig.verify_eq_error_iff⟩
    rw [BuildConfig.verify_eq_ok_iff, @eq_comm _ config]
    rfl
  · cases rest with
    | nil => rfl
    | cons next others => rfl
  · intro after
    have present := isDirectory_of_configure_strict tree success
    refine ⟨fun path told => ?_, fun argument member isHeader => ?_⟩
    · rw [directives_of_configure tree success] at told
      exact present path (List.mem_append_right _ (searchPath_mem_emit_iff.mp told))
    · obtain ⟨path, isDir, same⟩ := exists_of_headerFlag member isHeader
      exact ⟨path, same, present path (List.mem_append_left _ isDir)⟩

/-- A kit without two of the directories that its configuration names, and the same kit with all
of them. -/
theorem verification_only_refuses_incomplete_kit :
    let step : BuildStep :=
      { options :=
          { Options.usual with
            driverClass := .text "WDM"
            targetArch := .text "x64" }
        outDir := Path.ofText "out"
        environment := [(Candidate.rootVariable, "kit")]
        store := .absent
        standard := []
        machine := ⟨"linux", "x64", "6.1"⟩
        verify := true
        parts := .fewest }
    let shared := Path.ofText "kit/Include/10.0/shared"
    let libraries := Path.ofText "kit/Lib/10.0/km/x64"
    let incomplete : Disk :=
      { Disk.empty with
        entries :=
          [["kit"], ["kit", "Lib"], ["kit", "Lib", "10.0"], ["kit", "Include"],
            ["kit", "Include", "10.0"], ["kit", "Include", "10.0", "km"],
            ["kit", "Include", "10.0", "km", "crt"]].map fun names =>
              (⟨names⟩, .directory) }
    let whole : Disk :=
      { Disk.empty with
        entries :=
          incomplete.entries
            ++ [["kit", "Include", "10.0", "shared"], ["kit", "Lib", "10.0", "km"],
                ["kit", "Lib", "10.0", "km", "x64"]].map fun names =>
                  (⟨names⟩, .directory) }
    incomplete.IsTree ∧ whole.IsTree ∧
      (∃ config, (step.lenient.resolve incomplete).outcome = .ok config) ∧
      (step.strict.resolve incomplete).outcome
        = .error (.probe (some shared) (.incomplete ⟨[10, 0]⟩ [shared, libraries])) ∧
      ∃ configured, (step.strict.configure whole .none).result.outcome = .ok configured ∧
        .searchPath libraries ∈ configured.directives ∧
        (step.strict.configure whole .none).disk.isDirectory libraries = .ok true := by
  intro step shared libraries incomplete whole
  have tree : incomplete.IsTree := Disk.isTree_of_entries (by decide)
  have wholeTree : whole.IsTree := Disk.isTree_of_entries (by decide)
  have evaluated :
      (step.lenient.resolve incomplete).outcome.toOption.any (fun config =>
        decide (config.key.version = ⟨[10, 0]⟩ ∧
          config.directories
            = [Path.ofText "kit/Include/10.0/km", shared, Path.ofText "kit/Include/10.0/km/crt",
                libraries]))
        = true := by decide +kernel
  obtain ⟨config, made, decided⟩ := (Option.any_eq_true _ _).mp evaluated
  have resolved := eq_ok_of_toOption made
  obtain ⟨version, directories⟩ := of_decide_eq_true decided
  have refused : config.IsRefused incomplete
      (.probe (some shared) (.incomplete config.key.version [shared, libraries])) := by
    apply BuildConfig.IsRefused.incomplete
    · rw [directories]
      decide
    · rw [directories]
      decide
  rw [version] at refused
  obtain ⟨_, _, verifies, _⟩ := verification_only_refuses step tree
  obtain ⟨_, _, _, _, guarantees⟩ := verification_only_refuses step wholeTree
  have evaluatedWhole :
      (step.strict.configure whole .none).result.outcome.toOption.any (fun configured =>
        decide (.searchPath libraries ∈ configured.directives))
        = true := by decide +kernel
  obtain ⟨configured, madeWhole, told⟩ := (Option.any_eq_true _ _).mp evaluatedWhole
  have success := eq_ok_of_toOption madeWhole
  have isTold := of_decide_eq_true told
  exact ⟨tree, wholeTree, ⟨config, resolved⟩, ((verifies config resolved).2 _).mpr refused,
    configured, success, isTold, (guarantees .none configured success).1 libraries isTold⟩

end BuildStep

end DriverKit
