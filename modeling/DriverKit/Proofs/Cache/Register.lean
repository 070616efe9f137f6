import DriverKit.Proofs.Cache.File

/-!
# The cache as a register

Saves and loads on one output directory, one after the other, where the host may fail a save at any
of its steps. Whatever the history, the cache file has the text of the last configuration that was
saved, a load gives that configuration, and nothing is left beside the file but the directories on
the way to it.
-/

namespace DriverKit.Cache

open Yaml (Outline)

/-! ## Histories -/

/-- A call on the cache of an output directory. -/
inductive Call where
  | save (config : BuildConfig) (faults : Disk.ReplacementFaults)
  | load

/-- A save that is expected: of a configuration that comes up and whose text is read back, on a
host that can remove temporary files. -/
def Call.IsExpected (loader : Yaml.Loader) : Call → Prop
  | .save config faults =>
      Produced config ∧ ReadsBack loader config ∧ faults.removeTemporary = none
  | .load => True

/-- A disk together with the configuration of the last save on it that succeeded. -/
structure Register where
  disk : Disk
  kept : Option BuildConfig

namespace Register

/-- What a call makes of a register. -/
def after (file : Path) (register : Register) : Call → Register
  | .save config faults =>
      let (saved, disk) := Cache.save register.disk file config faults
      match saved.outcome with
      | .ok _ => ⟨disk, some config⟩
      | .error _ => ⟨disk, register.kept⟩
  | .load => register

/-- What a history of calls makes of a register. -/
def run (file : Path) (register : Register) (calls : List Call) : Register :=
  calls.foldl (after file) register

/-- The invariant of histories: the file has the text of the kept configuration, or there is no
such file, and nothing else has changed. -/
structure IsSound (loader : Yaml.Loader) (register : Register) (start : Disk) (outDir : Path) :
    Prop where
  tree : register.disk.IsTree
  altered :
    start.Altered register.disk (Disk.lineage outDir outDir.steps.length)
      [file outDir usualName]
  absent : register.kept = none →
    ∀ bytes, register.disk.at? (start.destination (file outDir usualName)) ≠ some (.file bytes)
  present : ∀ config, register.kept = some config →
    config.IsReadable ∧ ReadsBack loader config ∧
      register.disk.read (file outDir usualName) = .ok (text config).toUTF8

variable {loader : Yaml.Loader}

theorem isSound_after {register : Register} {start : Disk} {outDir : Path} {call : Call}
    (sound : register.IsSound loader start outDir) (expected : call.IsExpected loader) :
    (register.after (file outDir usualName) call).IsSound loader start outDir := by
  cases call with
  | load => exact sound
  | save config faults =>
      obtain ⟨produced, readsBack, removes⟩ := expected
      have saved := save_cases sound.tree outDir config faults
      unfold after
      simp only at saved ⊢
      generalize save register.disk (file outDir usualName) config faults = pair at *
      obtain ⟨outcome, disk⟩ := pair
      simp only at saved ⊢
      obtain ⟨tree, ⟨⟨failure, failed⟩, altered⟩ | ⟨finished, readBack, altered⟩⟩ := saved
      · rw [failed]
        have widened := (altered removes).mono (List.Subset.refl _)
          (List.nil_subset [file outDir usualName])
        exact
          { tree := tree
            altered := sound.altered.trans widened
            absent := fun empty bytes isFile =>
              sound.absent empty bytes ((altered removes).at?_eq_file_iff.mp isFile)
            present := fun kept isKept =>
              have ⟨readable, back, found⟩ := sound.present kept isKept
              ⟨readable, back, (altered removes).read_of_read found⟩ }
      · rw [finished]
        exact
          { tree := tree
            altered := sound.altered.trans altered
            absent := fun empty => nomatch empty
            present := fun kept isKept => by
              cases isKept
              exact ⟨isReadable_of_produced produced, readsBack, readBack⟩ }

theorem isSound_run {start : Disk} {outDir : Path} :
    ∀ {calls : List Call} {register : Register}, register.IsSound loader start outDir →
      (∀ call ∈ calls, call.IsExpected loader) →
        (run (file outDir usualName) register calls).IsSound loader start outDir
  | [], _, sound, _ => sound
  | call :: rest, register, sound, expected => by
      obtain ⟨first, others⟩ := List.forall_mem_cons.mp expected
      rw [run, List.foldl_cons]
      exact isSound_run (isSound_after sound first) others

/-- What a load gives at a sound register. Whether a directory is at the end of the path of the
file decides between the kept configuration and a failure of the cache. -/
theorem load_of_isSound {register : Register} {start : Disk} {outDir : Path}
    (sound : register.IsSound loader start outDir) :
    let cacheFile := file outDir usualName
    match register.disk.isDirectory cacheFile with
    | .ok false => (load loader register.disk cacheFile).outcome = .ok register.kept
    | .ok true =>
        register.kept = none ∧
          ∃ text, (load loader register.disk cacheFile).outcome =
            .error (.cache cacheFile (.fault text))
    | .error _ => register.kept = none := by
  intro cacheFile
  cases kept : register.kept with
  | some config =>
      obtain ⟨readable, readsBack, found⟩ := sound.present config kept
      obtain ⟨place, leads, isFile⟩ := Disk.exists_of_read found
      rw [Disk.isDirectory_of_entry (Disk.entry_of_place leads), isFile]
      exact load_eq_some readable readsBack found
  | none =>
      cases found : register.disk.entry? cacheFile with
      | error fault =>
          rw [Disk.isDirectory, found]
          rfl
      | ok entry =>
          rw [Disk.isDirectory_of_entry found]
          cases entry with
          | none => exact load_eq_none (Disk.contains_of_entry found)
          | some entry =>
              obtain ⟨place, leads, here⟩ := Disk.exists_of_entry found
              cases entry with
              | directory => exact ⟨rfl, exists_text_of_load leads here⟩
              | file bytes =>
                  rw [Disk.eq_destination_of_place leads,
                    sound.altered.keepsDirectories.destination] at here
                  exact absurd here (sound.absent kept bytes)

end Register

/-! ## A configuration without directories -/

/-- The configuration of a bare kernel driver in a layout without tiers. -/
def bareConfig : BuildConfig where
  key := ⟨⟨[10, 0]⟩, .wdm, .x64⟩
  kitRoot := Path.ofText "kit"
  includeDirs := []
  libDirs := []
  defines := Resolution.defines .wdm .x64
  linkLibs := Resolution.linkLibs .wdm
  rerunPaths := [Path.ofText "kit/Lib"]

theorem produced_bareConfig : Produced bareConfig := by
  have resolved :
      (Resolution.resolve ⟨fun _ => [], fun _ => [], .fewest⟩
        [⟨Path.ofText "kit", ⟨[10, 0]⟩, "environment"⟩] .wdm .x64 none []).outcome
        = .ok bareConfig := rfl
  exact produced_of_resolve_wdm resolved

theorem readsBack_bareConfig : ReadsBack (.ofLevels 8) bareConfig :=
  readsBack_ofLevels (by decide +kernel)

/-! ## The main result -/

/-- After any history a failing save is a failure of the cache, a load gives the configuration of
the last save that succeeded, no temporary file is left, and only the file and directories on the
way to it have been added. A path that leads through the place of its own cache file makes that a
directory, from which a load fails as a failure of the cache. -/
theorem register_of_calls {loader : Yaml.Loader} {start : Disk} {outDir : Path}
    {calls : List Call} (tree : start.IsTree)
    (absent : ∀ bytes, start.at? (start.destination (file outDir usualName)) ≠ some (.file bytes))
    (expected : ∀ call ∈ calls, call.IsExpected loader) :
    let cacheFile := file outDir usualName
    let register := Register.run cacheFile ⟨start, none⟩ calls
    (cacheFile.isNameable = true →
      ∀ config faults failure,
        (save register.disk cacheFile config faults).1.outcome = .error failure →
          ∃ text, failure = .cache cacheFile (.fault text)) ∧
      (match register.disk.isDirectory cacheFile with
        | .ok false => (load loader register.disk cacheFile).outcome = .ok register.kept
        | .ok true =>
            register.kept = none ∧
              ∃ text,
                (load loader register.disk cacheFile).outcome =
                  .error (.cache cacheFile (.fault text))
        | .error _ => register.kept = none) ∧
      register.disk.temporaries = start.temporaries ∧
      start.Altered register.disk (Disk.lineage outDir outDir.steps.length) [cacheFile] := by
  have begun : Register.IsSound loader ⟨start, none⟩ start outDir :=
    { tree := tree
      altered := Disk.Altered.refl start
      absent := fun _ => absent
      present := fun _ isKept => nomatch isKept }
  have sound := Register.isSound_run begun expected
  exact
    ⟨fun nameable _ _ _ failed => exists_text_of_save nameable failed,
      Register.load_of_isSound sound, sound.altered.temporaries, sound.altered⟩

/-- A save that succeeds and one that fails while the file is moved, seen by a load. -/
theorem register_of_calls_twice :
    let loader := Yaml.Loader.ofLevels 8
    ∃ calls register,
      calls
          = [.save bareConfig .none, .load,
             .save bareConfig { moveTemporary := some (.other "[Errno 5] Input/output error") }] ∧
        (∀ call ∈ calls, call.IsExpected loader) ∧
        register = Register.run (file (Path.ofText "out") usualName) ⟨.empty, none⟩ calls ∧
        register.disk.temporaries = Disk.empty.temporaries ∧
        (load loader register.disk (file (Path.ofText "out") usualName)).outcome
          = .ok (some bareConfig) := by
  intro loader
  obtain ⟨calls, called⟩ :
      ∃ calls : List Call,
        calls
          = [.save bareConfig .none, .load,
             .save bareConfig { moveTemporary := some (.other "[Errno 5] Input/output error") }] :=
    ⟨_, rfl⟩
  obtain ⟨register, ran⟩ :
      ∃ register,
        register = Register.run (file (Path.ofText "out") usualName) ⟨.empty, none⟩ calls :=
    ⟨_, rfl⟩
  have tree : Disk.empty.IsTree := Disk.isTree_of_entries (by decide)
  have absent :
      ∀ bytes,
        Disk.empty.at? (Disk.empty.destination (file (Path.ofText "out") usualName))
          ≠ some (.file bytes) := by
    intro bytes isFile
    cases isFile
  have expected : ∀ call ∈ calls, call.IsExpected loader := by
    rw [called]
    intro call member
    simp only [List.mem_cons, List.not_mem_nil, or_false] at member
    rcases member with rfl | rfl | rfl
    · exact ⟨produced_bareConfig, readsBack_bareConfig, rfl⟩
    · trivial
    · exact ⟨produced_bareConfig, readsBack_bareConfig, rfl⟩
  have kept : register.kept = some bareConfig := by
    rw [ran, called]
    rfl
  have isFile : register.disk.isDirectory (file (Path.ofText "out") usualName) = .ok false := by
    rw [ran, called]
    decide +kernel
  have conforms := register_of_calls tree absent expected
  simp only at conforms
  rw [← ran, isFile, kept] at conforms
  obtain ⟨_, loaded, temporaries, _⟩ := conforms
  exact ⟨calls, register, called, expected, ran, temporaries, loaded⟩

/-- A save can add more to the output directory than the cache file. Where the path of the output
directory leads through a directory that is not there and back again, that directory is made, and
it lies in the output directory itself. -/
theorem save_adds_directory :
    let outDir := Path.ofText "a/.."
    let call := Call.save bareConfig .none
    let (saved, after) := save .empty (file outDir usualName) bareConfig .none
    let added : Place := ⟨["a"]⟩
    let target := Disk.empty.destination (file outDir usualName)
    Disk.empty.IsTree ∧ call.IsExpected (.ofLevels 8) ∧ Disk.empty.at? target = none ∧
      saved.outcome = .ok (file outDir usualName) ∧ after.place outDir = .ok added.directory ∧
        added ≠ target ∧ Disk.empty.at? added = none ∧
          after.at? added = some .directory := by
  have saved :
      (save .empty (file (Path.ofText "a/..") usualName) bareConfig .none).1.outcome
        = .ok (file (Path.ofText "a/..") usualName) := eq_ok_of_toOption (by decide +kernel)
  exact
    ⟨Disk.isTree_of_entries (by decide), ⟨produced_bareConfig, readsBack_bareConfig, rfl⟩, rfl,
      saved, by decide +kernel, by decide, rfl, by decide +kernel⟩

end DriverKit.Cache
