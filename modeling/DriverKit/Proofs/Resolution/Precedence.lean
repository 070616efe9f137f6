import DriverKit.Proofs.Installation
import DriverKit.Proofs.Resolution.Layouts

/-!
# Precedence of directories

A configuration has the directories that the tiers of its class lead to, and each of them once. A
directory to which several tiers lead stands where the first of these tiers puts it, so a directory
of a stronger tier stays before one of weaker tiers only. What is watched is the place of the
versions, then the directories, then what was consulted, each path where it comes up first.
-/

namespace DriverKit

/-! ## Directories of tiers -/

/-- The place of the first tier that leads to a path. -/
def Tier.firstPlace (expand : Tier → Except Failure Path) (tiers : List Tier) (path : Path) : Nat :=
  tiers.findIdx fun tier => (expand tier).toOption == some path

theorem Tier.firstPlace_eq_idxOf {expand : Tier → Except Failure Path} {tiers : List Tier}
    {dirs : List Path}
    (expanded : List.Forall₂ (fun tier dir => expand tier = .ok dir) tiers dirs) (path : Path) :
    firstPlace expand tiers path = dirs.idxOf path := by
  unfold firstPlace
  induction expanded with
  | nil => rfl
  | @cons tier dir rest others leads _ inductionHypothesis =>
      rw [List.findIdx_cons, List.idxOf_cons, inductionHypothesis, leads]
      rfl

namespace Resolution

/-- Directories are those that tiers lead to, each of them once, in the order of the first tiers
that lead to them. -/
structure KeepsTiers (dirs : List Path) (expand : Tier → Except Failure Path)
    (tiers : List Tier) : Prop where
  nodup : dirs.Nodup
  mem_iff : ∀ path, path ∈ dirs ↔ ∃ tier ∈ tiers, expand tier = .ok path
  precedes_iff : ∀ path ∈ dirs, ∀ other ∈ dirs,
    dirs.idxOf path < dirs.idxOf other ↔
      Tier.firstPlace expand tiers path < Tier.firstPlace expand tiers other

theorem keepsTiers_distinct {expand : Tier → Except Failure Path} {tiers : List Tier}
    {dirs : List Path} (made : tiers.mapM expand = .ok dirs) :
    KeepsTiers (distinct dirs) expand tiers := by
  have expanded := mapM_eq_ok_iff.mp made
  have firsts := firstsOf_distinct dirs
  constructor
  · exact firsts.nodup
  · intro path
    rw [firsts.mem_iff]
    constructor
    · intro member
      exact exists_of_forall₂ expanded member
    · rintro ⟨tier, inTiers, leads⟩
      obtain ⟨dir, inDirs, leadsToDir⟩ := exists_of_forall₂ expanded.flip inTiers
      have same : path = dir := Except.ok.inj (leads.symm.trans leadsToDir)
      rw [same]
      exact inDirs
  · intro path member other otherMember
    rw [Tier.firstPlace_eq_idxOf expanded, Tier.firstPlace_eq_idxOf expanded]
    exact firsts.precedes_iff path member other otherMember

/-! ## Configurations -/

variable {layout : KitLayout} {installation : Installation} {driver : DriverConfig} {arch : Arch}
  {consulted : List Path} {config : BuildConfig}

/-- A configuration has just the directories of its tiers and watches just the paths that it depends
on, nothing twice and everything where it comes up first. -/
structure KeepsPrecedence (config : BuildConfig) (layout : KitLayout) (installation : Installation)
    (driver : DriverConfig) (arch : Arch) (consulted : List Path) : Prop where
  key : config.key = ⟨installation.version, driver, arch⟩
  kitRoot : config.kitRoot = installation.root
  includeDirs : KeepsTiers config.includeDirs
    (fun tier => tier.expand layout.parts installation.root installation.version driver none)
    (layout.includeTiers driver.driverClass)
  libDirs : KeepsTiers config.libDirs
    (fun tier => tier.expand layout.parts installation.root installation.version driver (some arch))
    (layout.libTiers driver.driverClass)
  head_rerunPaths : config.rerunPaths.head? = some (KitLayout.versionRoot installation.root)
  rerunPaths : FirstsOf config.rerunPaths
    (KitLayout.versionRoot installation.root :: config.includeDirs ++ config.libDirs ++ consulted)

theorem IsFor.keepsPrecedence
    (isFor : IsFor config layout installation driver arch consulted) :
    KeepsPrecedence config layout installation driver arch consulted := by
  obtain ⟨headers, headersMade, sameHeaders⟩ := isFor.includeDirs
  obtain ⟨libraries, librariesMade, sameLibraries⟩ := isFor.libDirs
  constructor
  · exact isFor.key
  · exact isFor.kitRoot
  · rw [sameHeaders]
    exact keepsTiers_distinct headersMade
  · rw [sameLibraries]
    exact keepsTiers_distinct librariesMade
  · rw [isFor.rerunPaths]
    rfl
  · rw [isFor.rerunPaths]
    exact firstsOf_distinct _

theorem exists_configure_iff :
    (∃ config, configure layout installation driver arch consulted = .ok config) ↔
      (∀ tier ∈ layout.includeTiers driver.driverClass, ∃ dir,
          tier.expand layout.parts installation.root installation.version driver none = .ok dir) ∧
        ∀ tier ∈ layout.libTiers driver.driverClass, ∃ dir,
          tier.expand layout.parts installation.root installation.version driver (some arch) =
            .ok dir := by
  rw [← exists_mapM_eq_ok_iff, ← exists_mapM_eq_ok_iff]
  constructor
  · rintro ⟨config, made⟩
    have isFor := configure_eq_ok_iff.mp made
    obtain ⟨headers, headersMade, _⟩ := isFor.includeDirs
    obtain ⟨libraries, librariesMade, _⟩ := isFor.libDirs
    exact ⟨⟨headers, headersMade⟩, ⟨libraries, librariesMade⟩⟩
  · rintro ⟨⟨headers, headersMade⟩, ⟨libraries, librariesMade⟩⟩
    exact ⟨_, bind_eq_ok_iff.mpr
      ⟨headers, headersMade, bind_eq_ok_iff.mpr ⟨libraries, librariesMade, rfl⟩⟩⟩

/-- Where there is an installation that suits the pin, a resolution selects one, succeeds if no
template of the driver's tiers fails to expand in it, and then loses and repeats nothing. -/
theorem resolve_keeps_precedence {installations : List Installation} {pin : Option KitVersion}
    (nonempty : installations ≠ [])
    (matching : ∀ pinned, pin = some pinned →
      ∃ installation ∈ installations, installation.version.same pinned = true)
    (layout : KitLayout) (driver : DriverConfig) (arch : Arch) (consulted : List Path) :
    ∃ installation ∈ installations, Installation.select installations pin = .ok installation ∧
      let outcome := (resolve layout installations driver arch pin consulted).outcome
      ((∃ config, outcome = .ok config) ↔
        (∀ tier ∈ layout.includeTiers driver.driverClass, ∃ dir,
            tier.expand layout.parts installation.root installation.version driver none = .ok dir) ∧
          ∀ tier ∈ layout.libTiers driver.driverClass, ∃ dir,
            tier.expand layout.parts installation.root installation.version driver (some arch) =
              .ok dir) ∧
      ∀ config, outcome = .ok config →
        KeepsPrecedence config layout installation driver arch consulted := by
  obtain ⟨installation, selected⟩ := Installation.exists_select nonempty matching
  have made : (resolve layout installations driver arch pin consulted).outcome
      = configure layout installation driver arch consulted := by
    rw [outcome_resolve, selected, ok_bind]
  refine ⟨installation, Installation.mem_of_select selected, selected, ?_⟩
  intro outcome
  rw [show outcome = _ from made]
  constructor
  · exact exists_configure_iff
  · intro config configured
    exact (configure_eq_ok_iff.mp configured).keepsPrecedence

/-- A pinned kit, and tiers of which two lead to one directory. -/
theorem resolve_keeps_precedence_coinciding :
    let newest : Installation := ⟨Path.ofText "new", ⟨[10, 0, 2]⟩, "environment"⟩
    let pinned : Installation := ⟨Path.ofText "kit", ⟨[10, 0, 1, 0]⟩, "environment"⟩
    let pin : KitVersion := ⟨[10, 0, 1]⟩
    let tiers : List Tier :=
      [.named "shared" "Include/\x7bversion\x7d/km", .named "sdk" "Include/\x7bversion\x7d/shared",
        .named "again" "/Include//\x7bversion\x7d/./km/"]
    let layout : KitLayout := ⟨fun _ => tiers, fun _ => tiers, .fewest⟩
    let consulted := [Path.ofText "new/Lib", Path.ofText "kit/Lib"]
    [newest, pinned] ≠ [] ∧ pinned.version.same pin = true ∧
      ∃ config,
        (resolve layout [newest, pinned] .wdm .x64 (some pin) consulted).outcome = .ok config ∧
          KeepsPrecedence config layout pinned .wdm .x64 consulted ∧
            config.rerunPaths.map Path.text
              = ["kit/Lib", "kit/Include/10.0.1.0/km", "kit/Include/10.0.1.0/shared",
                "new/Lib"] := by
  intro newest pinned pin tiers layout consulted
  have nonempty : [newest, pinned] ≠ [] := List.cons_ne_nil newest [pinned]
  have suits : pinned.version.same pin = true := by decide
  have matching : ∀ asked, some pin = some asked →
      ∃ installation ∈ [newest, pinned], installation.version.same asked = true := by
    rintro _ ⟨⟩
    exact ⟨pinned, List.mem_cons_of_mem newest (List.mem_singleton_self pinned), suits⟩
  obtain ⟨installation, _, selected, succeeds, keeps⟩ :=
    resolve_keeps_precedence nonempty matching layout .wdm .x64 consulted
  have isPinned : installation = pinned := Except.ok.inj (selected.symm.trans rfl)
  rw [isPinned] at succeeds keeps
  have expands : ∀ (arch : Option Arch), ∀ tier ∈ tiers, ∃ dir,
      tier.expand layout.parts pinned.root pinned.version .wdm arch = .ok dir := by
    intro arch
    simp only [tiers, List.forall_mem_cons]
    exact ⟨⟨_, rfl⟩, ⟨_, rfl⟩, ⟨_, rfl⟩, fun _ member => absurd member List.not_mem_nil⟩
  obtain ⟨config, resolved⟩ := succeeds.mpr ⟨expands none, expands (some .x64)⟩
  have watched :
      (resolve layout [newest, pinned] .wdm .x64 (some pin) consulted).outcome.toOption.map
          (fun made => made.rerunPaths.map Path.text)
        = some
            ["kit/Lib", "kit/Include/10.0.1.0/km", "kit/Include/10.0.1.0/shared", "new/Lib"] := by
    decide +kernel
  rw [resolved] at watched
  exact ⟨nonempty, suits, config, resolved, keeps config resolved, Option.some.inj watched⟩

end Resolution

end DriverKit
