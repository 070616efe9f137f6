import DriverKit.Directive
import DriverKit.Proofs.Driver
import DriverKit.Proofs.Resolution

/-!
# Directives line by line

The text of directives is taken apart at its line feeds again. A directive is one of the lines if
its own text has no line feed; otherwise it adds as many lines as its text has. In the directives
of a configuration only the paths to watch can have line feeds, since every library directory is
among them and all other texts are made of letters, digits and signs.
-/

namespace DriverKit.Directive

open DriverKit.Text

/-! ## Lines -/

theorem toList_written (directives : List Directive) :
    (written directives).toList
      = (directives.map fun directive => directive.line.toList).flatMap (· ++ ['\n']) := by
  rw [written, String.toList_join, List.flatMap_map, List.flatMap_map]
  simp only [String.toList_append]
  rfl

theorem lineStart_prefix_line (directive : Directive) :
    lineStart.toList <+: directive.line.toList := by
  cases directive with
  | cfg name value =>
      cases value with
      | none => simp [line]
      | some value => simp [line]
  | _ => simp [line]

/-- A directive whose text has no line feed. -/
def IsOneLine (directive : Directive) : Prop := '\n' ∉ directive.line.toList

theorem isOneLine_searchPath_iff {path : Path} :
    (searchPath path).IsOneLine ↔ '\n' ∉ path.text.toList := by
  simp [IsOneLine, line, lineStart]

theorem isOneLine_library_iff {name : String} :
    (library name).IsOneLine ↔ '\n' ∉ name.toList := by
  simp [IsOneLine, line, lineStart]

theorem isOneLine_rerunIfChanged_iff {path : Path} :
    (rerunIfChanged path).IsOneLine ↔ '\n' ∉ path.text.toList := by
  simp [IsOneLine, line, lineStart]

theorem isOneLine_cfg_iff {name value : String} :
    (cfg name (some value)).IsOneLine ↔ '\n' ∉ name.toList ∧ '\n' ∉ value.toList := by
  simp [IsOneLine, line, lineStart]

/-! ## Directives of a driver -/

theorem lineFeed_not_mem_name (driverClass : DriverClass) :
    '\n' ∉ driverClass.name.toList ∧ '\n' ∉ (driverClass.smallName ++ "_version").toList := by
  cases driverClass with
  | kmdf => decide
  | umdf => decide
  | wdm => decide

theorem isOneLine_of_mem_ofDriver {config : DriverConfig} {directive : Directive}
    (member : directive ∈ ofDriver config) : directive.IsOneLine := by
  obtain ⟨name, smallName⟩ := lineFeed_not_mem_name config.driverClass
  have typeLine : (cfg "driver_type" (some config.driverClass.name)).IsOneLine :=
    isOneLine_cfg_iff.mpr ⟨by decide, name⟩
  unfold ofDriver at member
  simp only at member
  split at member
  · rw [List.mem_singleton.mp member]
    exact typeLine
  · rename_i version _
    rcases List.mem_pair.mp member with isType | isVersion
    · rw [isType]
      exact typeLine
    · rw [isVersion]
      exact isOneLine_cfg_iff.mpr ⟨smallName, FrameworkVersion.not_mem_text (by decide) version⟩

/-! ## Directives of a configuration -/

theorem isOneLine_emit_iff {config : BuildConfig} :
    (∀ directive ∈ emit config, directive.IsOneLine) ↔
      (∀ path ∈ config.libDirs, '\n' ∉ path.text.toList) ∧
        (∀ name ∈ config.linkLibs, '\n' ∉ name.toList) ∧
          ∀ path ∈ config.rerunPaths, '\n' ∉ path.text.toList := by
  simp only [emit, List.forall_mem_append, List.forall_mem_map, mem_distinct,
    isOneLine_searchPath_iff, isOneLine_library_iff, isOneLine_rerunIfChanged_iff]
  constructor
  · rintro ⟨⟨⟨dirs, libs⟩, watched⟩, _⟩
    exact ⟨dirs, libs, watched⟩
  · rintro ⟨dirs, libs, watched⟩
    exact ⟨⟨⟨dirs, libs⟩, watched⟩, fun _ member => isOneLine_of_mem_ofDriver member⟩

theorem lineFeed_not_mem_linkLibs (driverClass : DriverClass) :
    ∀ name ∈ Resolution.linkLibs driverClass, '\n' ∉ name.toList := by
  cases driverClass with
  | kmdf => decide
  | umdf => decide
  | wdm => decide

/-- A configuration that is resolved has its directives on a line each just where no path to watch
has a line feed. -/
theorem isOneLine_emit_iff_of_isFor {config : BuildConfig} {layout : KitLayout}
    {installation : Installation} {driver : DriverConfig} {arch : Arch} {consulted : List Path}
    (isFor : Resolution.IsFor config layout installation driver arch consulted) :
    (∀ directive ∈ emit config, directive.IsOneLine) ↔
      ∀ path ∈ config.rerunPaths, '\n' ∉ path.text.toList := by
  rw [isOneLine_emit_iff]
  constructor
  · rintro ⟨_, _, watched⟩
    exact watched
  · intro watched
    refine ⟨fun path member => ?_, ?_, watched⟩
    · have inLibs : path ∈ config.includeDirs ++ config.libDirs ++ consulted :=
        List.mem_append_left _ (List.mem_append_right _ member)
      exact watched path (isFor.mem_rerunPaths inLibs)
    · rw [isFor.linkLibs]
      exact lineFeed_not_mem_linkLibs driver.driverClass

/-! ## The main result -/

/-- What a resolved configuration tells the orchestrator is, taken apart at the line feeds, the
pieces of the directives one after another. These are the directives themselves just where no path
to watch has a line feed; every directive begins with the mark of directives all the same. -/
theorem pieces_written_emit {layout : KitLayout} {installations : List Installation}
    {driver : DriverConfig} {arch : Arch} {pin : Option KitVersion} {consulted : List Path}
    {config : BuildConfig}
    (resolved :
      (Resolution.resolve layout installations driver arch pin consulted).outcome = .ok config) :
    let lines := (emit config).map fun directive => directive.line.toList
    let written := pieces '\n' (written (emit config)).toList
    (∀ line ∈ lines, lineStart.toList <+: line) ∧
      written = lines.flatMap (pieces '\n') ++ [[]] ∧
        (written = lines ++ [[]] ↔ ∀ path ∈ config.rerunPaths, '\n' ∉ path.text.toList) := by
  intro lines written
  obtain ⟨installation, _, isFor⟩ := Resolution.resolve_eq_ok_iff.mp resolved
  have apart : written = pieces '\n' (lines.flatMap (· ++ ['\n'])) :=
    congrArg (pieces '\n') (toList_written (emit config))
  refine ⟨?_, ?_, ?_⟩
  · intro line member
    obtain ⟨directive, _, rfl⟩ := List.mem_map.mp member
    exact lineStart_prefix_line directive
  · rw [apart, pieces_flatMap_append_mark]
  · rw [apart, pieces_flatMap_append_mark_eq_iff, ← isOneLine_emit_iff_of_isFor isFor]
    exact List.forall_mem_map

/-- A root in one line, and one with a line feed in its name. -/
theorem pieces_written_emit_two_roots :
    let config (root : String) : BuildConfig :=
      { key := ⟨⟨[10, 0]⟩, .wdm, .x64⟩
        kitRoot := Path.ofText root
        includeDirs := []
        libDirs := []
        defines := Resolution.defines .wdm .x64
        linkLibs := Resolution.linkLibs .wdm
        rerunPaths := [KitLayout.versionRoot (Path.ofText root)] }
    let resolve (root : String) :=
      (Resolution.resolve ⟨fun _ => [], fun _ => [], .fewest⟩
        [⟨Path.ofText root, ⟨[10, 0]⟩, "environment"⟩] .wdm .x64 none []).outcome
    let lines (root : String) := (emit (config root)).map fun directive => directive.line.toList
    let written (root : String) := pieces '\n' (written (emit (config root))).toList
    resolve "kit" = .ok (config "kit") ∧ written "kit" = lines "kit" ++ [[]] ∧
      resolve "a\nb" = .ok (config "a\nb") ∧ written "a\nb" ≠ lines "a\nb" ++ [[]] := by
  intro config resolve lines written
  have resolved : ∀ root, resolve root = .ok (config root) := fun _ => rfl
  refine ⟨resolved "kit", ?_, resolved "a\nb", fun same => ?_⟩
  · exact (pieces_written_emit (resolved "kit")).2.2.mpr (by decide)
  · have watched := (pieces_written_emit (resolved "a\nb")).2.2.mp same
    exact watched _ List.mem_cons_self (by decide)

end DriverKit.Directive
