import DriverKit.Directive
import DriverKit.Proofs.Distinct.Pass
import DriverKit.Proofs.KitVersion.Order
import DriverKit.Proofs.Resolution

/-!
# Directives of a resolved configuration

A resolution leaves no equals among the directories and the paths to watch, and no class has a
library twice. What is dropped once has nothing more to drop, so everything that a resolved
configuration has for an orchestrator becomes a directive.
-/

namespace DriverKit.Directive

/-- Every library directory, library and path to watch of a configuration becomes a directive of its
own. -/
structure SaysAll (config : BuildConfig) : Prop where
  libDirs : distinct config.libDirs = config.libDirs
  linkLibs : distinct config.linkLibs = config.linkLibs
  rerunPaths : distinct config.rerunPaths = config.rerunPaths
  emit : emit config
    = config.libDirs.map searchPath ++ config.linkLibs.map library
      ++ config.rerunPaths.map rerunIfChanged ++ ofDriver config.key.driver

theorem distinct_linkLibs (driverClass : DriverClass) :
    distinct (Resolution.linkLibs driverClass) = Resolution.linkLibs driverClass := by
  cases driverClass <;> decide

theorem saysAll_of_isFor {config : BuildConfig} {layout : KitLayout} {installation : Installation}
    {driver : DriverConfig} {arch : Arch} {consulted : List Path}
    (isFor : Resolution.IsFor config layout installation driver arch consulted) :
    SaysAll config := by
  obtain ⟨dirs, _, sameDirs⟩ := isFor.libDirs
  have libDirs : distinct config.libDirs = config.libDirs := by
    rw [sameDirs]
    exact distinctBy_distinctBy dirs
  have linkLibs : distinct config.linkLibs = config.linkLibs := by
    rw [isFor.linkLibs]
    exact distinct_linkLibs driver.driverClass
  have rerunPaths : distinct config.rerunPaths = config.rerunPaths := by
    rw [isFor.rerunPaths]
    exact distinctBy_distinctBy _
  refine ⟨libDirs, linkLibs, rerunPaths, ?_⟩
  rw [Directive.emit, libDirs, linkLibs, rerunPaths]

theorem saysAll_of_resolve {layout : KitLayout} {installations : List Installation}
    {driver : DriverConfig} {arch : Arch} {pin : Option KitVersion} {consulted : List Path}
    {config : BuildConfig}
    (resolved :
      (Resolution.resolve layout installations driver arch pin consulted).outcome = .ok config) :
    SaysAll config := by
  obtain ⟨_, _, isFor⟩ := Resolution.resolve_eq_ok_iff.mp resolved
  exact saysAll_of_isFor isFor

/-- Of items with an equality and a hash that fits it the distinct ones are the firsts, and no other
list keeps the firsts; one pass that looks up what it has met finds them. Dropping equals twice
drops no more than dropping them once, and of two lists one after the other the second loses also
what has an equal in the first. So of a configuration that was resolved nothing is dropped when
directives are made of it. -/
theorem distinct_drops_later_equals {Item : Type} [BEq Item] [EquivBEq Item] [Hashable Item]
    [LawfulHashable Item] (items others : List Item) :
    (∀ kept, KeepsFirsts kept items ↔ kept = distinct items) ∧
      (Pass.through items).kept.toList = distinct items ∧
      distinct (distinct items) = distinct items ∧
      distinct (items ++ others)
        = distinct items ++ (distinct others).filter (fun later => !items.contains later) ∧
      (∀ layout installations driver arch pin consulted config,
        (Resolution.resolve layout installations driver arch pin consulted).outcome = .ok config →
          SaysAll config) ∧
      ∀ layout installations driver arch pin consulted config,
        (Resolution.request layout installations driver arch pin consulted).outcome = .ok config →
          SaysAll config := by
  refine ⟨fun kept => keepsFirsts_iff, (Pass.hasVisited_through items).kept,
    distinctBy_distinctBy items, ?_, ?_, ?_⟩
  · simp only [← List.any_beq']
    exact distinctBy_append others items
  · intro layout installations driver arch pin consulted config resolved
    exact saysAll_of_resolve resolved
  · intro layout installations driver arch pin consulted config answered
    obtain ⟨_, _, resolved⟩ := Resolution.exists_resolve_of_request answered
    exact saysAll_of_resolve resolved

/-- Of equal versions the first is left as it is written, and a directory that was consulted three
times is watched once. -/
theorem distinct_drops_later_equals_widths :
    let long : KitVersion := ⟨[10, 0, 22000, 0]⟩
    let short : KitVersion := ⟨[10, 0, 22000]⟩
    let next : KitVersion := ⟨[10, 0, 26100]⟩
    let nextLong : KitVersion := ⟨[10, 0, 26100, 0]⟩
    let newest : KitVersion := ⟨[10, 0, 28000]⟩
    let versions := [long, next, short]
    let kit : Installation := ⟨Path.ofText "kit", long, "environment"⟩
    let consulted := ["old/Lib", "kit/Lib", "old//Lib", "old/Lib/."].map Path.ofText
    distinctBy KitVersion.same versions = [long, next] ∧ KeepsFirsts [long, next] versions ∧
      (Pass.through versions).kept.toList = [long, next] ∧
      distinctBy KitVersion.same (versions ++ [nextLong, newest]) = [long, next, newest] ∧
      ∃ config,
        (Resolution.resolve (.usual .fewest) [kit] .wdm .x64 none consulted).outcome = .ok config ∧
          SaysAll config ∧
            config.rerunPaths.map Path.text
              = ["kit/Lib", "kit/Include/10.0.22000.0/km", "kit/Include/10.0.22000.0/shared",
                "kit/Include/10.0.22000.0/km/crt", "kit/Lib/10.0.22000.0/km/x64", "old/Lib"] := by
  intro long short next nextLong newest versions kit consulted
  obtain ⟨firsts, passed, _, joined, resolvedSaysAll, _⟩ :=
    distinct_drops_later_equals versions [nextLong, newest]
  have left : distinct versions = [long, next] := by decide
  have further :
      (distinct [nextLong, newest]).filter (fun later => !versions.contains later) = [newest] := by
    decide
  have watched :
      (Resolution.resolve (.usual .fewest) [kit] .wdm .x64 none consulted).outcome.toOption.map
          (fun made => made.rerunPaths.map Path.text)
        = some
            ["kit/Lib", "kit/Include/10.0.22000.0/km", "kit/Include/10.0.22000.0/shared",
              "kit/Include/10.0.22000.0/km/crt", "kit/Lib/10.0.22000.0/km/x64", "old/Lib"] := by
    decide +kernel
  obtain ⟨config, made, watchedPaths⟩ := Option.map_eq_some_iff.mp watched
  have resolved := eq_ok_of_toOption made
  rw [left] at passed
  rw [left, further] at joined
  exact ⟨left, (firsts _).mpr left.symm, passed, joined, config, resolved,
    resolvedSaysAll _ _ _ _ _ _ config resolved, watchedPaths⟩

end DriverKit.Directive
