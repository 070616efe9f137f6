import DriverKit.Proofs.Distinct
import DriverKit.Proofs.Outcome
import DriverKit.Resolution

/-!
# What a resolution makes

A resolution selects one of the installations and fills in a configuration for it. What becomes of
every field is said once, and is all that later modules use.
-/

namespace DriverKit

theorem Installation.foldl_newer_mem {rest : List Installation} :
    ∀ best : Installation, rest.foldl newer best ∈ best :: rest := by
  induction rest with
  | nil => exact fun best => List.mem_singleton_self best
  | cons next others inductionHypothesis =>
      intro best
      have further := inductionHypothesis (newer best next)
      rw [List.foldl_cons]
      rcases List.mem_cons.mp further with same | later
      · rw [same, newer]
        split
        · simp
        · simp
      · simp [later]

theorem Installation.mem_of_select {installations : List Installation} {pin : Option KitVersion}
    {selected : Installation} (found : select installations pin = .ok selected) :
    selected ∈ installations := by
  unfold select at found
  split at found
  · cases found
  · rename_i first rest
    cases found
    exact foldl_newer_mem first
  · split at found
    · rename_i matching
      cases found
      exact List.mem_of_find?_eq_some matching
    · cases found

namespace Resolution

/-- A configuration is the one for a driver in an installation. -/
structure IsFor (config : BuildConfig) (layout : KitLayout) (installation : Installation)
    (driver : DriverConfig) (arch : Arch) (consulted : List Path) : Prop where
  key : config.key = ⟨installation.version, driver, arch⟩
  kitRoot : config.kitRoot = installation.root
  includeDirs : ∃ dirs,
    layout.includeDirs installation.root installation.version driver = .ok dirs ∧
      config.includeDirs = distinct dirs
  libDirs : ∃ dirs,
    layout.libDirs installation.root installation.version driver arch = .ok dirs ∧
      config.libDirs = distinct dirs
  defines : config.defines = defines driver arch
  linkLibs : config.linkLibs = linkLibs driver.driverClass
  rerunPaths :
    config.rerunPaths
      = distinct
          (KitLayout.versionRoot installation.root :: config.includeDirs ++ config.libDirs
            ++ consulted)

variable {layout : KitLayout} {driver : DriverConfig} {arch : Arch} {consulted : List Path}
  {config : BuildConfig}

theorem configure_eq_ok_iff {installation : Installation} :
    configure layout installation driver arch consulted = .ok config ↔
      IsFor config layout installation driver arch consulted := by
  simp only [configure, bind_eq_ok_iff]
  constructor
  · rintro ⟨includeDirs, includes, libDirs, libs, result⟩
    cases result
    exact ⟨rfl, rfl, ⟨includeDirs, includes, rfl⟩, ⟨libDirs, libs, rfl⟩, rfl, rfl, rfl⟩
  · rintro ⟨key, kitRoot, ⟨includeDirs, includes, sameIncludes⟩, ⟨libDirs, libs, sameLibs⟩,
      sameDefines, sameLink, sameWatched⟩
    refine ⟨includeDirs, includes, libDirs, libs, ?_⟩
    rw [sameIncludes, sameLibs] at sameWatched
    cases config
    simp only at key kitRoot sameIncludes sameLibs sameDefines sameLink sameWatched
    rw [key, kitRoot, sameIncludes, sameLibs, sameDefines, sameLink, sameWatched]
    rfl

/-- A resolution selects an installation and makes the configuration for it. -/
theorem resolve_eq_ok_iff {installations : List Installation} {pin : Option KitVersion} :
    (resolve layout installations driver arch pin consulted).outcome = .ok config ↔
      ∃ installation, Installation.select installations pin = .ok installation ∧
        IsFor config layout installation driver arch consulted := by
  simp only [resolve, Traced.outcome_bind_eq_ok_iff, Traced.outcome_lift, Traced.outcome_say,
    Traced.outcome_pure, configure_eq_ok_iff]
  constructor
  · rintro ⟨installation, selected, _, _, made, isFor, _, _, result⟩
    cases result
    exact ⟨installation, selected, isFor⟩
  · rintro ⟨installation, selected, isFor⟩
    exact ⟨installation, selected, (), trivial, config, isFor, (), trivial, rfl⟩

/-- A request that is answered is a resolution for a driver and an architecture. -/
theorem exists_resolve_of_request {installations : List Installation}
    {given : Datum ⊕ DriverConfig} {named : Datum} {pin : Option KitVersion}
    (answered : (request layout installations given named pin consulted).outcome = .ok config) :
    ∃ driver arch,
      (resolve layout installations driver arch pin consulted).outcome = .ok config := by
  unfold request at answered
  cases given with
  | inl value => cases answered
  | inr driver =>
      simp only [Traced.outcome_bind_eq_ok_iff] at answered
      obtain ⟨_, _, arch, _, resolved⟩ := answered
      exact ⟨driver, arch, resolved⟩

/-- The directories of a configuration and all that were consulted are watched. -/
theorem IsFor.mem_rerunPaths {installation : Installation}
    (isFor : IsFor config layout installation driver arch consulted) {path : Path}
    (member : path ∈ config.includeDirs ++ config.libDirs ++ consulted) :
    path ∈ config.rerunPaths := by
  rw [isFor.rerunPaths, mem_distinct]
  exact List.mem_cons_of_mem _ member

end Resolution

end DriverKit
