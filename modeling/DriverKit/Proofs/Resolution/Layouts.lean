import DriverKit.Proofs.KitLayout.Reading
import DriverKit.Proofs.Resolution
import DriverKit.Proofs.Resolution.Expansion
import DriverKit.Proofs.Template.Filling

/-!
# Layouts that keep a driver from being resolved

Reading a layout, and resolving a driver with it, end with a result or a reported failure just where
the layout has no fault that escapes: a group of tiers that is no map, an overlong numeral, or a
template that cannot be filled in. Templates of the documented placeholders always can be.
-/

namespace DriverKit

/-! ## Templates of a layout -/

/-- The template of a tier cannot be filled in. -/
def Tier.IsUnfilled (host : Template.Parts) (version : KitVersion) (driver : DriverConfig)
    (arch : Option Arch) (tier : Tier) (failure : Failure) : Prop :=
  Template.expand host (Tier.bindings version driver arch) tier.template = .error failure

theorem Tier.expand_eq_error_iff {host : Template.Parts} {tier : Tier} {root : Path}
    {version : KitVersion} {driver : DriverConfig} {arch : Option Arch} {failure : Failure} :
    tier.expand host root version driver arch = .error failure ↔
      tier.IsUnfilled host version driver arch failure := by
  unfold Tier.expand
  rw [bind_eq_error_iff]
  constructor
  · rintro (failed | ⟨_, _, impossible⟩)
    · exact failed
    · cases impossible
  · exact Or.inl

/-- The first template that cannot be filled in: those for headers come before those for
libraries. -/
inductive TemplateFault (layout : KitLayout) (version : KitVersion) (driver : DriverConfig)
    (arch : Arch) (failure : Failure) : Prop where
  | header
      (first : FirstFault (Tier.IsUnfilled layout.parts version driver none)
        (layout.includeTiers driver.driverClass) failure)
  | library
      (fine : ∀ tier ∈ layout.includeTiers driver.driverClass, ∀ other,
        ¬tier.IsUnfilled layout.parts version driver none other)
      (first : FirstFault (Tier.IsUnfilled layout.parts version driver (some arch))
        (layout.libTiers driver.driverClass) failure)

namespace Resolution

/-! ## Directories and configurations -/

section

variable {layout : KitLayout} {driver : DriverConfig} {arch : Arch} {consulted : List Path}

theorem exists_includeDirs_iff {root : Path} {version : KitVersion} :
    (∃ dirs, layout.includeDirs root version driver = .ok dirs) ↔
      ∀ tier ∈ layout.includeTiers driver.driverClass, ∀ failure,
        ¬tier.IsUnfilled layout.parts version driver none failure := by
  have filled_iff : ∀ tier : Tier,
      (∃ dir, tier.expand layout.parts root version driver none = .ok dir) ↔
        ∀ failure, tier.expand layout.parts root version driver none ≠ .error failure := by
    intro tier
    cases tier.expand layout.parts root version driver none with
    | error failure => simp
    | ok dir => simp
  simp only [KitLayout.includeDirs, exists_mapM_eq_ok_iff, filled_iff, ne_eq,
    Tier.expand_eq_error_iff]

theorem configure_eq_error_iff {installation : Installation} {failure : Failure} :
    configure layout installation driver arch consulted = .error failure ↔
      TemplateFault layout installation.version driver arch failure := by
  have headers :
      layout.includeDirs installation.root installation.version driver = .error failure ↔
        FirstFault (Tier.IsUnfilled layout.parts installation.version driver none)
          (layout.includeTiers driver.driverClass) failure :=
    mapM_eq_error_iff fun _ _ => Tier.expand_eq_error_iff
  have libraries :
      layout.libDirs installation.root installation.version driver arch = .error failure ↔
        FirstFault (Tier.IsUnfilled layout.parts installation.version driver (some arch))
          (layout.libTiers driver.driverClass) failure :=
    mapM_eq_error_iff fun _ _ => Tier.expand_eq_error_iff
  simp only [configure, bind_eq_error_iff, headers, libraries]
  constructor
  · rintro (first | ⟨dirs, made, first | ⟨_, _, impossible⟩⟩)
    · exact .header first
    · exact .library (exists_includeDirs_iff.mp ⟨dirs, made⟩) first
    · cases impossible
  · rintro (first | ⟨fine, first⟩)
    · exact Or.inl first
    · obtain ⟨dirs, made⟩ := exists_includeDirs_iff.mpr fine
      exact Or.inr ⟨dirs, made, Or.inl first⟩

theorem outcome_resolve (layout : KitLayout) (installations : List Installation)
    (driver : DriverConfig) (arch : Arch) (pin : Option KitVersion) (consulted : List Path) :
    (resolve layout installations driver arch pin consulted).outcome
      = Installation.select installations pin >>= fun installation =>
          configure layout installation driver arch consulted := by
  simp only [resolve, Traced.outcome_bind, Traced.outcome_lift, Traced.outcome_say,
    Traced.outcome_pure, ok_bind]
  congr 1
  funext installation
  cases configure layout installation driver arch consulted with
  | error failure => rfl
  | ok config => rfl

theorem exists_select_of_ne_nil {installations : List Installation}
    (nonempty : installations ≠ []) :
    ∃ installation ∈ installations, Installation.select installations none = .ok installation := by
  cases installations with
  | nil => exact absurd rfl nonempty
  | cons first rest => exact ⟨_, Installation.foldl_newer_mem first, rfl⟩

/-! ## Kinds of templates -/

/-- The templates that the directories of a class come from. -/
def templates (layout : KitLayout) (driverClass : DriverClass) : List String :=
  (layout.includeTiers driverClass ++ layout.libTiers driverClass).map Tier.template

theorem not_templateFault_of_isDocumented {version : KitVersion}
    (documented : ∀ template ∈ templates layout driver.driverClass,
      Template.IsDocumented template) (failure : Failure) :
    ¬TemplateFault layout version driver arch failure := by
  have filled : ∀ {machine : Option Arch},
      ∀ tier ∈ layout.includeTiers driver.driverClass ++ layout.libTiers driver.driverClass,
        ¬tier.IsUnfilled layout.parts version driver machine failure := by
    intro machine tier member failed
    obtain ⟨text, expanded⟩ :=
      Template.exists_expand_of_isDocumented layout.parts version driver machine
        (documented _ (List.mem_map_of_mem member))
    cases expanded.symm.trans failed
  rintro (⟨front, tier, back, split, _, isUnfilled⟩ | ⟨_, front, tier, back, split, _, isUnfilled⟩)
  · exact filled tier (by simp [split]) isUnfilled
  · exact filled tier (by simp [split]) isUnfilled

theorem configure_ne_ok_of_isForeign {installation : Installation} {config : BuildConfig}
    {template : String} (member : template ∈ templates layout driver.driverClass)
    (foreign : Template.IsForeign template) :
    configure layout installation driver arch consulted ≠ .ok config := by
  intro made
  obtain ⟨tier, inTiers, rfl⟩ := List.mem_map.mp member
  have filled : ∀ {machine : Option Arch} {dir : Path},
      tier.expand layout.parts installation.root installation.version driver machine ≠ .ok dir := by
    intro machine dir expanded
    obtain ⟨text, isText, _⟩ := bind_eq_ok_iff.mp expanded
    exact Template.expand_ne_ok_of_isForeign _ _ _ _ foreign isText
  have isFor := configure_eq_ok_iff.mp made
  rcases List.mem_append.mp inTiers with header | library
  · obtain ⟨dirs, dirsMade, _⟩ := isFor.includeDirs
    obtain ⟨dir, expanded⟩ := exists_mapM_eq_ok_iff.mp ⟨dirs, dirsMade⟩ tier header
    exact filled expanded
  · obtain ⟨dirs, dirsMade, _⟩ := isFor.libDirs
    obtain ⟨dir, expanded⟩ := exists_mapM_eq_ok_iff.mp ⟨dirs, dirsMade⟩ tier library
    exact filled expanded

theorem configured_or_reported_iff {installation : Installation} :
    ((∃ config, configure layout installation driver arch consulted = .ok config) ∨
        ∃ failure, failure.isReported = true ∧
          configure layout installation driver arch consulted = .error failure) ↔
      ∀ failure, ¬TemplateFault layout installation.version driver arch failure := by
  simp only [← @configure_eq_error_iff layout driver arch consulted installation]
  constructor
  · rintro (⟨config, isOk⟩ | ⟨failure, reported, failed⟩) other isFault
    · cases isOk.symm.trans isFault
    · cases failsOnly_configure _ _ _ _ _ failure failed
      cases reported
  · intro nothing
    cases made : configure layout installation driver arch consulted with
    | ok config => exact Or.inl ⟨config, rfl⟩
    | error failure => exact absurd made (nothing failure)

theorem exists_configure_of_isDocumented {installation : Installation}
    (documented : ∀ template ∈ templates layout driver.driverClass,
      Template.IsDocumented template) :
    ∃ config, configure layout installation driver arch consulted = .ok config ∧
      IsFor config layout installation driver arch consulted := by
  cases made : configure layout installation driver arch consulted with
  | ok config => exact ⟨config, rfl, configure_eq_ok_iff.mp made⟩
  | error failure =>
      exact absurd (configure_eq_error_iff.mp made)
        (not_templateFault_of_isDocumented documented failure)

theorem exists_misuse_of_isForeign {installation : Installation} {template : String}
    (member : template ∈ templates layout driver.driverClass)
    (foreign : Template.IsForeign template) :
    ∃ cause, configure layout installation driver arch consulted = .error (.misuse cause) := by
  cases made : configure layout installation driver arch consulted with
  | ok config => exact absurd made (configure_ne_ok_of_isForeign member foreign)
  | error failure =>
      obtain ⟨cause⟩ := failsOnly_configure _ _ _ _ _ failure made
      exact ⟨cause, rfl⟩

end

/-! ## What escapes -/

end Resolution

end DriverKit
