import DriverKit.Cache.File
import DriverKit.Proofs.Cache.Document
import DriverKit.Proofs.Disk.Replacement
import DriverKit.Proofs.Yaml.Loader

/-!
# Cache files, saved and loaded

A save either leaves the text of the configuration in the cache file, or fails with every file as
it was. A load from a file with the text of a configuration gives that configuration, if the text
is read as the document that was written.
-/

namespace DriverKit.Cache

open Yaml (Outline)

/-! ## Saving -/

theorem isStep_usualName : isStep usualName.toList = true := by decide

theorem parent_file (outDir : Path) : (file outDir usualName).parent = outDir :=
  Path.parent_child isStep_usualName

/-- How a save ends: with a failure and every file as it was, as long as the host removes temporary
files, or with the text of the configuration in the cache file. -/
theorem save_cases {disk : Disk} (tree : disk.IsTree) (outDir : Path) (config : BuildConfig)
    (faults : Disk.ReplacementFaults) :
    let cacheFile := file outDir usualName
    let (saved, after) := save disk cacheFile config faults
    let directories := Disk.lineage outDir outDir.steps.length
    after.IsTree ∧
      ((∃ failure, saved.outcome = .error failure) ∧
          (faults.removeTemporary = none → disk.Altered after directories []) ∨
        saved.outcome = .ok cacheFile ∧ after.read cacheFile = .ok (text config).toUTF8 ∧
          disk.Altered after directories [cacheFile]) := by
  have replaced :=
    Disk.replace_cases tree (file outDir usualName) (.ok (text config).toUTF8) faults
  rw [parent_file] at replaced
  unfold save
  simp only at replaced ⊢
  generalize
    disk.replace (file outDir usualName) (.ok (text config).toUTF8) faults
      = pair at *
  obtain ⟨done, after⟩ := pair
  simp only at replaced ⊢
  obtain ⟨afterTree, ⟨⟨failure, failed⟩, altered⟩ | ⟨finished, bytes, same, readBack, altered⟩⟩ :=
    replaced
  · refine ⟨afterTree, Or.inl ⟨?_, altered⟩⟩
    rw [failed]
    cases failure <;> exact ⟨_, rfl⟩
  · cases same
    refine ⟨afterTree, Or.inr ⟨?_, readBack, altered⟩⟩
    simp only [finished, Traced.outcome_bind]
    rfl

/-- A save fails as a failure of the cache, if the path of the file can be told to the host. -/
theorem exists_text_of_save {disk : Disk} {file : Path} {config : BuildConfig}
    {faults : Disk.ReplacementFaults} {failure : Failure} (nameable : file.isNameable = true)
    (failed : (save disk file config faults).1.outcome = .error failure) :
    ∃ text, failure = .cache file (.fault text) := by
  have byHost := Disk.failsByHost_replace disk nameable (text config).toUTF8 faults
  unfold save at failed
  simp only at failed
  split at failed
  · cases failed
    exact ⟨_, rfl⟩
  · rename_i cause notHost refused
    obtain ⟨fault, isHost⟩ := byHost cause refused
    exact absurd isHost (notHost fault)
  · rename_i replaced
    rw [Traced.outcome_bind, replaced] at failed
    cases failed

/-! ## Loading -/

variable {loader : Yaml.Loader}

/-- The text of a configuration is read as the document that it was written from. -/
def ReadsBack (loader : Yaml.Loader) (config : BuildConfig) : Prop :=
  loader.read (text config).toUTF8 = .ok (Outline.map (encode config)).datum

theorem toList_text (config : BuildConfig) :
    (text config).toList
      = Outline.joined 0 (Outline.entryLines 0 (encode config)) ++ ['\n'] := by
  simp [text, Yaml.write, encode]

theorem decodeLines?_text (config : BuildConfig) :
    Text.decodeLines? (text config).toUTF8 = some (text config).toList :=
  Yaml.decodeLines?_write (encode config)

/-- Tells whether the characters of a configuration are read as the document that they were written
from. They are not put into a string, which is slow to take apart. -/
def readsBack (levels : Nat) (config : BuildConfig) : Bool :=
  (Yaml.read levels
    (Outline.joined 0 (Outline.entryLines 0 (encode config)) ++ ['\n'])).toOption.any
      (Outline.map (encode config)).matchesDatum

theorem readsBack_ofLevels {levels : Nat} {config : BuildConfig}
    (isMatch : readsBack levels config = true) : ReadsBack (.ofLevels levels) config := by
  rw [readsBack, ← toList_text] at isMatch
  exact Yaml.Loader.read_ofLevels_of_matches (decodeLines?_text config) isMatch

theorem ofBytes_text {file : Path} {config : BuildConfig} (readable : config.IsReadable)
    (readsBack : ReadsBack loader config) :
    ofBytes loader file (text config).toUTF8 = .ok config := by
  have isRead : loader.read (text config).toUTF8 = _ := readsBack
  have parsed :
      parse loader file (text config).toUTF8 = .ok (Outline.map (encode config)).datum := by
    simp only [parse, isRead]
  have opened :
      (Outline.map (encode config)).datum.opened = .map (Outline.entryData (encode config)) := rfl
  rw [ofBytes, parsed]
  simp [bind, Except.bind, opened, decode_encode_of_isReadable readable, pure, Except.pure]

theorem load_eq_none {disk : Disk} {file : Path} (absent : disk.contains file = .ok false) :
    (load loader disk file).outcome = .ok none := by
  unfold load
  rw [absent]
  rfl

/-- A load from a file gives what is made of its bytes. -/
theorem outcome_load_of_read {disk : Disk} {file : Path} {bytes : ByteArray}
    (kept : disk.read file = .ok bytes) :
    (load loader disk file).outcome = some <$> ofBytes loader file bytes := by
  obtain ⟨place, leads, isFile⟩ := Disk.exists_of_read kept
  have contained : disk.contains file = .ok true := by
    rw [Disk.contains_of_entry (Disk.entry_of_place leads), isFile]
    rfl
  unfold load
  rw [contained, kept]
  simp only [Traced.outcome_bind, Traced.outcome_liftHost, Except.mapError, ok_bind,
    Bool.not_true, Bool.false_eq_true, if_false, Traced.outcome_lift, Traced.outcome_say,
    Traced.outcome_pure]
  rfl

/-- A load from a file with the text of a configuration gives the configuration. -/
theorem load_eq_some {disk : Disk} {file : Path} {config : BuildConfig}
    (readable : config.IsReadable) (readsBack : ReadsBack loader config)
    (kept : disk.read file = .ok (text config).toUTF8) :
    (load loader disk file).outcome = .ok (some config) := by
  rw [outcome_load_of_read kept, ofBytes_text readable readsBack]
  rfl

/-- A load from a directory fails as a failure of the cache. -/
theorem exists_text_of_load {disk : Disk} {file : Path} {place : Place}
    (leads : disk.place file = .ok place) (isDirectory : disk.at? place = some .directory) :
    ∃ text, (load loader disk file).outcome = .error (.cache file (.fault text)) := by
  have contained : disk.contains file = .ok true := by
    rw [Disk.contains_of_entry (Disk.entry_of_place leads), isDirectory]
    rfl
  have unread : disk.read file = .error (.isDirectory file.text) := by
    simp [Disk.read, leads, isDirectory]
  unfold load
  rw [contained, unread]
  exact ⟨_, rfl⟩

end DriverKit.Cache
