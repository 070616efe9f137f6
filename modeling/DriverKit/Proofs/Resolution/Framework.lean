import DriverKit.Directive
import DriverKit.Proofs.Driver.Route
import DriverKit.Proofs.KitLayout
import DriverKit.Proofs.Resolution

/-!
# The driver in a resolved configuration

The class of a driver and the version of its framework show in a configuration in several places:
in the directories, in the definitions, in the libraries and in the flags that the orchestrator is
told. With the built-in layout they all show the driver that was asked for, and nothing shows a
framework that it does not use.
-/

namespace DriverKit.Resolution

open DriverKit.Text

/-! ## Definitions -/

theorem mem_frameworkDefines_iff {driver : DriverConfig} {name : String} {value : Option String} :
    (name, value) ∈ frameworkDefines driver ↔
      ∃ number, driver.framework? = some number ∧
        (name = driver.driverClass.name ++ "_VERSION_MAJOR" ∧
            value = some (writeInteger number.major) ∨
          name = driver.driverClass.name ++ "_VERSION_MINOR" ∧
            value = some (writeInteger number.minor)) := by
  unfold frameworkDefines
  cases driver.framework? with
  | none => simp
  | some number => simp

/-- What follows the name of a framework in the names that tell its version. -/
def versionMarks : List String := ["_VERSION_MAJOR", "_VERSION_MINOR"]

theorem versionName_eq_iff {framework own : DriverClass} {left right : String}
    (leftMark : left ∈ versionMarks) (rightMark : right ∈ versionMarks) :
    framework.name ++ left = own.name ++ right ↔ own = framework ∧ left = right := by
  have apart : ∀ left ∈ versionMarks, ∀ right ∈ versionMarks,
      (framework.name ++ left = own.name ++ right ↔ own = framework ∧ left = right) := by
    cases framework <;> cases own <;> decide
  exact apart left leftMark right rightMark

theorem versionName_mem_defines_iff {framework : DriverClass} {mark : String}
    (isMark : mark ∈ versionMarks) {driver : DriverConfig} {arch : Arch} {value : Option String} :
    (framework.name ++ mark, value) ∈ defines driver arch ↔
      (framework.name ++ mark, value) ∈ frameworkDefines driver := by
  have notOfOthers : ∀ mark ∈ versionMarks,
      framework.name ++ mark
        ∉ (archDefines arch ++ modeDefines driver.driverClass).map Prod.fst := by
    cases framework <;> cases driver.driverClass <;> cases arch <;> decide
  unfold defines
  rw [List.mem_append]
  constructor
  · rintro (others | own)
    · exact absurd (List.mem_map_of_mem others) (notOfOthers mark isMark)
    · exact own
  · exact Or.inr

theorem major_mem_defines_iff {driver : DriverConfig} {arch : Arch} {framework : DriverClass}
    {value : Option String} :
    (framework.name ++ "_VERSION_MAJOR", value) ∈ defines driver arch ↔
      ∃ number, driver.framework? = some number ∧ driver.driverClass = framework ∧
        value = some (writeInteger number.major) := by
  have isMajor : "_VERSION_MAJOR" ∈ versionMarks := by decide
  have isMinor : "_VERSION_MINOR" ∈ versionMarks := by decide
  have differ : "_VERSION_MAJOR" ≠ "_VERSION_MINOR" := by decide
  rw [versionName_mem_defines_iff isMajor, mem_frameworkDefines_iff]
  simp only [versionName_eq_iff isMajor isMajor, versionName_eq_iff isMajor isMinor, differ,
    and_true, and_false, false_and, or_false]

theorem minor_mem_defines_iff {driver : DriverConfig} {arch : Arch} {framework : DriverClass}
    {value : Option String} :
    (framework.name ++ "_VERSION_MINOR", value) ∈ defines driver arch ↔
      ∃ number, driver.framework? = some number ∧ driver.driverClass = framework ∧
        value = some (writeInteger number.minor) := by
  have isMajor : "_VERSION_MAJOR" ∈ versionMarks := by decide
  have isMinor : "_VERSION_MINOR" ∈ versionMarks := by decide
  have differ : "_VERSION_MINOR" ≠ "_VERSION_MAJOR" := by decide
  rw [versionName_mem_defines_iff isMinor, mem_frameworkDefines_iff]
  simp only [versionName_eq_iff isMinor isMajor, versionName_eq_iff isMinor isMinor, differ,
    and_true, and_false, false_and, false_or]

theorem kernelMode_mem_defines_iff {driver : DriverConfig} {arch : Arch} :
    (∃ value, ("_KERNEL_MODE", value) ∈ defines driver arch) ↔ driver.driverClass ≠ .umdf := by
  have ofMode : (∃ value, ("_KERNEL_MODE", value) ∈ modeDefines driver.driverClass) ↔
      driver.driverClass ≠ .umdf := by
    cases driver.driverClass <;> simp [modeDefines, DriverClass.isKernelMode]
  have notOfArch : ∀ value, ("_KERNEL_MODE", value) ∉ archDefines arch := by
    intro value
    cases arch <;> simp [archDefines]
  have notOfFramework : ∀ value, ("_KERNEL_MODE", value) ∉ frameworkDefines driver := by
    have other : ∀ own : DriverClass,
        "_KERNEL_MODE" ≠ own.name ++ "_VERSION_MAJOR" ∧
          "_KERNEL_MODE" ≠ own.name ++ "_VERSION_MINOR" := by
      intro own
      cases own <;> decide
    intro value member
    obtain ⟨number, _, ⟨isMajor, _⟩ | ⟨isMinor, _⟩⟩ := mem_frameworkDefines_iff.mp member
    · exact (other driver.driverClass).1 isMajor
    · exact (other driver.driverClass).2 isMinor
  simp only [defines, List.mem_append, notOfArch, notOfFramework, false_or, or_false]
  exact ofMode

/-! ## Libraries -/

theorem kernelEntry_mem_linkLibs_iff {driverClass : DriverClass} :
    "WdfDriverEntry" ∈ linkLibs driverClass ↔ driverClass = .kmdf := by
  cases driverClass <;> decide

theorem userStub_mem_linkLibs_iff {driverClass : DriverClass} :
    "WdfDriverStubUm" ∈ linkLibs driverClass ↔ driverClass = .umdf := by
  cases driverClass <;> decide

/-! ## Flags -/

theorem cfg_mem_emit_iff {config : BuildConfig} {framework : DriverClass} {value : Option String} :
    .cfg (framework.smallName ++ "_version") value ∈ Directive.emit config ↔
      ∃ number, config.key.driver.framework? = some number ∧
        config.key.driver.driverClass = framework ∧ value = some number.text := by
  have notType : framework.smallName ++ "_version" ≠ "driver_type" := by
    cases framework <;> decide
  have sameName : ∀ own : DriverClass,
      framework.smallName ++ "_version" = own.smallName ++ "_version" ↔ own = framework := by
    intro own
    cases framework <;> cases own <;> decide
  have ofOthers :
      .cfg (framework.smallName ++ "_version") value ∈ Directive.emit config ↔
        .cfg (framework.smallName ++ "_version") value ∈ Directive.ofDriver config.key.driver := by
    simp [Directive.emit]
  rw [ofOthers]
  unfold Directive.ofDriver
  cases config.key.driver.framework? with
  | none => simp [notType]
  | some number => simp [notType, sameName]

/-! ## Resolved configurations -/

/-- A configuration shows the class of a driver and the version of its framework, and nothing of a
framework that the driver does not use. -/
structure ShowsDriver (config : BuildConfig) (driver : DriverConfig) : Prop where
  includeDirs : KitLayout.ShowsDriver config.includeDirs config.kitRoot driver
  libDirs : KitLayout.ShowsDriver config.libDirs config.kitRoot driver
  major : ∀ (framework : DriverClass) (value : Option String),
    (framework.name ++ "_VERSION_MAJOR", value) ∈ config.defines ↔
      ∃ number, driver.framework? = some number ∧ driver.driverClass = framework ∧
        value = some (writeInteger number.major)
  minor : ∀ (framework : DriverClass) (value : Option String),
    (framework.name ++ "_VERSION_MINOR", value) ∈ config.defines ↔
      ∃ number, driver.framework? = some number ∧ driver.driverClass = framework ∧
        value = some (writeInteger number.minor)
  kernelMode : (∃ value, ("_KERNEL_MODE", value) ∈ config.defines) ↔ driver.driverClass ≠ .umdf
  kernelEntry : "WdfDriverEntry" ∈ config.linkLibs ↔ driver.driverClass = .kmdf
  userStub : "WdfDriverStubUm" ∈ config.linkLibs ↔ driver.driverClass = .umdf
  cfg : ∀ (framework : DriverClass) (value : Option String),
    .cfg (framework.smallName ++ "_version") value ∈ Directive.emit config ↔
      ∃ number, driver.framework? = some number ∧ driver.driverClass = framework ∧
        value = some number.text

theorem IsFor.showsDriver {host : Template.Parts} {config : BuildConfig}
    {installation : Installation} {driver : DriverConfig} {arch : Arch} {consulted : List Path}
    (isFor : IsFor config (.usual host) installation driver arch consulted) :
    ShowsDriver config driver := by
  obtain ⟨includeDirs, includesMade, sameIncludes⟩ := isFor.includeDirs
  obtain ⟨libDirs, libsMade, sameLibs⟩ := isFor.libDirs
  have sameDriver : config.key.driver = driver := congrArg ConfigKey.driver isFor.key
  exact
    { includeDirs := by
        rw [sameIncludes, isFor.kitRoot]
        exact (KitLayout.showsDriver_includeDirs includesMade).distinct
      libDirs := by
        rw [sameLibs, isFor.kitRoot]
        exact (KitLayout.showsDriver_libDirs libsMade).distinct
      major := fun _ _ => by rw [isFor.defines, major_mem_defines_iff]
      minor := fun _ _ => by rw [isFor.defines, minor_mem_defines_iff]
      kernelMode := by rw [isFor.defines, kernelMode_mem_defines_iff]
      kernelEntry := by rw [isFor.linkLibs, kernelEntry_mem_linkLibs_iff]
      userStub := by rw [isFor.linkLibs, userStub_mem_linkLibs_iff]
      cfg := fun _ _ => by rw [cfg_mem_emit_iff, sameDriver] }

/-- With the built-in layout a resolution succeeds whenever an installation is selected. -/
theorem exists_resolve_usual_iff {host : Template.Parts}
    {installations : List Installation} {driver : DriverConfig} {arch : Arch}
    {pin : Option KitVersion} {consulted : List Path} :
    (∃ config,
        (resolve (.usual host) installations driver arch pin consulted).outcome = .ok config) ↔
      ∃ installation, Installation.select installations pin = .ok installation := by
  constructor
  · rintro ⟨config, resolved⟩
    obtain ⟨installation, selected, _⟩ := resolve_eq_ok_iff.mp resolved
    exact ⟨installation, selected⟩
  · rintro ⟨installation, selected⟩
    have includes := KitLayout.includeDirs_usual host installation.root installation.version driver
    have libs := KitLayout.libDirs_usual host installation.root installation.version driver arch
    have configured :
        ∃ config, configure (.usual host) installation driver arch consulted = .ok config :=
      ⟨_, bind_eq_ok_iff.mpr ⟨_, includes, bind_eq_ok_iff.mpr ⟨_, libs, rfl⟩⟩⟩
    obtain ⟨config, made⟩ := configured
    exact ⟨config, resolve_eq_ok_iff.mpr ⟨installation, selected, configure_eq_ok_iff.mp made⟩⟩

/-- A driver configuration that comes of a route has the class and the framework version that were
asked for, and these go together. What is resolved for it with the built-in layout shows just this
class and this version in all its parts. -/
theorem shows_asked_driver {route : Route} {driver : DriverConfig}
    (made : route.driver = .ok driver) :
    route.driverClass = .ok driver.driverClass ∧ route.version = .ok driver.framework? ∧
      driver.driverClass.Takes driver.framework? ∧
        ∀ (host : Template.Parts) (installations : List Installation) (arch : Arch)
          (pin : Option KitVersion) (consulted : List Path),
          let outcome := (resolve (.usual host) installations driver arch pin consulted).outcome
          ((∃ config, outcome = .ok config) ↔
              ∃ installation, Installation.select installations pin = .ok installation) ∧
            ∀ config, outcome = .ok config → ShowsDriver config driver := by
  obtain ⟨sameClass, sameVersion⟩ := Route.asked_of_driver made
  refine ⟨sameClass, sameVersion, driver.takes_framework?, ?_⟩
  intro host installations arch pin consulted outcome
  refine ⟨exists_resolve_usual_iff, fun config resolved => ?_⟩
  obtain ⟨_, _, isFor⟩ := resolve_eq_ok_iff.mp resolved
  exact isFor.showsDriver

/-- A user mode driver whose class and framework version are given as texts. -/
theorem shows_asked_driver_umdf :
    let route : Route := .given (.inr (.text " umdf ")) (.inr (.text "2.15"))
    let installation : Installation := ⟨Path.ofText "kit", ⟨[10, 0]⟩, "environment"⟩
    route.driver = .ok (.umdf 15) ∧
      ∃ config,
        (resolve (.usual .fewest) [installation] (.umdf 15) .x64 none []).outcome = .ok config ∧
          ShowsDriver config (.umdf 15) ∧
            ("UMDF_VERSION_MINOR", some "15") ∈ config.defines ∧
              "WdfDriverEntry" ∉ config.linkLibs := by
  intro route installation
  have made : route.driver = .ok (.umdf 15) := rfl
  obtain ⟨_, _, _, resolutions⟩ := shows_asked_driver made
  obtain ⟨succeeds, shows⟩ := resolutions .fewest [installation] .x64 none []
  obtain ⟨config, resolved⟩ := succeeds.mpr ⟨installation, rfl⟩
  have shown := shows config resolved
  refine ⟨made, config, resolved, shown, ?_, ?_⟩
  · exact (shown.minor .umdf (some "15")).mpr ⟨⟨2, 15⟩, rfl, rfl, by decide⟩
  · exact fun member => nomatch shown.kernelEntry.mp member

end DriverKit.Resolution
