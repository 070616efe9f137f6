import DriverKit.BuildConfig
import DriverKit.Proofs.KitLayout
import Mathlib.Data.List.Nodup

/-!
# Directories of different builds

In the built-in layout the library directories tell for which release, driver and architecture they
are. A release is a single step, since it is named in digits and dots; so the directory of a
framework is one step longer than that of a release, and neither lies where the other could. The
architecture stands at one and the same place in all library directories, four steps below the root,
so those of two architectures are apart whatever else the builds have in common.
-/

namespace DriverKit.KitLayout

open DriverKit.Text

/-! ## Parts of one list -/

section

variable {top : String} {inner : List String} {tails : List (List String)} {version : KitVersion}
  {driver : DriverConfig}

theorem isStep_of_mem_usualParts (ordinary : IsOrdinary (top :: inner))
    (tailSteps : ∀ tail ∈ tails, ∀ part ∈ tail, isStep part.toList = true)
    (readable : version.IsReadable) {parts : List String}
    (member : parts ∈ usualParts top inner tails version driver) :
    ∀ part ∈ parts, isStep part.toList = true := by
  rcases mem_usualParts_iff.mp member with ⟨number, _, rfl⟩ | ⟨tail, inTails, rfl⟩
  · exact isStep_of_mem_frameworkParts ordinary
  · intro part inParts
    simp only [List.mem_cons] at inParts
    rcases inParts with isTop | isRelease | inTail
    · rw [isTop]
      exact ordinary.isStep top List.mem_cons_self
    · rw [isRelease]
      exact KitVersion.isStep_text readable
    · exact tailSteps tail inTails part inTail

/-- The directory of the framework lies beside those of the release, and these differ in what
follows the release. -/
theorem nodup_usualParts (nodup : tails.Nodup) :
    (usualParts top inner tails version driver).Nodup := by
  have releases : (tails.map fun tail => top :: version.text :: tail).Nodup := by
    apply nodup.map
    intro tail other same
    simpa using same
  have framework :
      (driver.framework?.map (frameworkParts top inner driver.driverClass)).toList.Nodup := by
    cases driver.framework? with
    | none => exact List.nodup_nil
    | some number => exact List.nodup_singleton _
  apply framework.append releases
  intro parts inFramework inReleases
  obtain ⟨number, _, isFramework⟩ := Option.map_eq_some_iff.mp (Option.mem_toList.mp inFramework)
  obtain ⟨tail, _, isRelease⟩ := List.mem_map.mp inReleases
  have same := isFramework.trans isRelease.symm
  injection same with _ later
  injection later with isMark _
  exact text_ne_mark version isMark.symm

end

/-- Directories have given parts as their steps below a root. -/
def HavePartsBelow (root : Path) (dirs : List Path) (allParts : List (List String)) : Prop :=
  dirs.map Path.steps = allParts.map (root.steps ++ ·)

namespace HavePartsBelow

variable {root : Path} {dirs others : List Path} {allParts otherParts : List (List String)}

theorem map_below (valid : ∀ parts ∈ allParts, ∀ part ∈ parts, isStep part.toList = true) :
    HavePartsBelow root (allParts.map (below root)) allParts := by
  unfold HavePartsBelow
  rw [List.map_map]
  apply List.map_congr_left
  intro parts member
  show (below root parts).steps = root.steps ++ parts
  rw [steps_below, Path.flatMap_stepsOf (valid parts member)]

theorem nodup (haveParts : HavePartsBelow root dirs allParts) (partsNodup : allParts.Nodup) :
    dirs.Nodup := by
  apply List.Nodup.of_map Path.steps
  rw [haveParts]
  exact partsNodup.map (List.append_right_injective root.steps)

theorem parts_eq (haveParts : HavePartsBelow root dirs allParts)
    (othersHaveParts : HavePartsBelow root others otherParts) (same : dirs = others) :
    allParts = otherParts := by
  apply List.map_injective_iff.mpr (List.append_right_injective root.steps)
  rw [← haveParts, ← othersHaveParts, same]

theorem disjoint (haveParts : HavePartsBelow root dirs allParts)
    (othersHaveParts : HavePartsBelow root others otherParts)
    (apart : allParts.Disjoint otherParts) : dirs.Disjoint others := by
  intro dir inDirs inOthers
  have first : dir.steps ∈ allParts.map (root.steps ++ ·) := by
    rw [← haveParts]
    exact List.mem_map_of_mem inDirs
  have second : dir.steps ∈ otherParts.map (root.steps ++ ·) := by
    rw [← othersHaveParts]
    exact List.mem_map_of_mem inOthers
  obtain ⟨parts, inParts, spelled⟩ := List.mem_map.mp first
  obtain ⟨other, inOtherParts, spelledAlso⟩ := List.mem_map.mp second
  have same : other = parts := List.append_cancel_left (spelledAlso.trans spelled.symm)
  rw [same] at inOtherParts
  exact apart inParts inOtherParts

end HavePartsBelow

/-! ## Parts of two lists -/

/-- The parts of the library directories of a build. -/
def libParts (key : ConfigKey) : List (List String) :=
  usualParts "Lib" [key.arch.name] (libTails key.arch key.driver.driverClass) key.version key.driver

/-- The mode in which drivers of a class run, as a folder of a release. -/
def modeFolder : DriverClass → String
  | .umdf => "um"
  | _ => "km"

theorem libTails_eq (arch : Arch) (driverClass : DriverClass) :
    libTails arch driverClass = [[modeFolder driverClass, arch.name]] := by
  cases driverClass with
  | kmdf => rfl
  | umdf => rfl
  | wdm => rfl

theorem frameworkParts_inj {top : String} {inner : List String} {own other : DriverClass}
    {number otherNumber : FrameworkVersion} :
    frameworkParts top inner own number = frameworkParts top inner other otherNumber ↔
      own = other ∧ number = otherNumber := by
  simp [frameworkParts, smallName_inj, FrameworkVersion.text_inj]

/-- The directory of the framework tells the driver, and that there is none tells it too. -/
theorem driver_eq_of_frameworkParts_eq {top : String} {inner : List String}
    {left right : DriverConfig}
    (same : left.framework?.map (frameworkParts top inner left.driverClass)
      = right.framework?.map (frameworkParts top inner right.driverClass)) :
    left = right := by
  cases leftFound : left.framework? with
  | none =>
      rw [leftFound, Option.map_none, eq_comm, Option.map_eq_none_iff] at same
      have leftClass := left.takes_framework?.absent_iff.mp leftFound
      have rightClass := right.takes_framework?.absent_iff.mp same
      exact DriverConfig.eq_of_parts (leftClass.trans rightClass.symm) (leftFound.trans same.symm)
  | some number =>
      rw [leftFound, Option.map_some, eq_comm, Option.map_eq_some_iff] at same
      obtain ⟨otherNumber, rightFound, sameParts⟩ := same
      obtain ⟨sameClass, sameNumber⟩ := frameworkParts_inj.mp sameParts
      rw [sameNumber, ← leftFound] at rightFound
      exact DriverConfig.eq_of_parts sameClass.symm rightFound.symm

theorem eq_of_libParts_eq {left right : ConfigKey} (leftReadable : left.version.IsReadable)
    (rightReadable : right.version.IsReadable) (same : libParts left = libParts right) :
    left = right := by
  unfold libParts usualParts at same
  rw [libTails_eq, libTails_eq] at same
  obtain ⟨frameworks, releases⟩ := List.append_inj' same rfl
  simp only [List.map_cons, List.map_nil, List.cons.injEq, and_true, true_and] at releases
  obtain ⟨sameText, _, sameName⟩ := releases
  have sameFramework := congrArg List.head? frameworks
  rw [sameName, Option.head?_toList, Option.head?_toList] at sameFramework
  have sameVersion := (KitVersion.text_inj leftReadable rightReadable).mp sameText
  have sameDriver := driver_eq_of_frameworkParts_eq sameFramework
  have sameArch := Arch.name_inj.mp sameName
  cases left
  cases right
  simp only at sameVersion sameDriver sameArch
  rw [sameVersion, sameDriver, sameArch]

/-- The fourth step below the root is the architecture, in the directory of a framework as in that
of a release. -/
theorem arch_of_mem_libParts {key : ConfigKey} {parts : List String}
    (member : parts ∈ libParts key) : parts[3]? = some key.arch.name := by
  unfold libParts at member
  rw [libTails_eq, mem_usualParts_iff] at member
  rcases member with ⟨number, _, isFramework⟩ | ⟨tail, inTails, isRelease⟩
  · rw [isFramework]
    rfl
  · rw [isRelease, List.mem_singleton.mp inTails]
    rfl

theorem disjoint_libParts {left right : ConfigKey} (different : left.arch ≠ right.arch) :
    (libParts left).Disjoint (libParts right) := by
  intro parts inLeft inRight
  have sameName := (arch_of_mem_libParts inLeft).symm.trans (arch_of_mem_libParts inRight)
  exact different (Arch.name_inj.mp (Option.some.inj sameName))

/-! ## Directories of builds -/

/-- Where a build finds its headers and its libraries. -/
structure HasDirs (host : Template.Parts) (root : Path) (key : ConfigKey)
    (headers libs : List Path) : Prop where
  headers : (usual host).includeDirs root key.version key.driver = .ok headers
  libs : (usual host).libDirs root key.version key.driver key.arch = .ok libs

theorem exists_hasDirs (host : Template.Parts) (root : Path) (key : ConfigKey) :
    ∃ headers libs, HasDirs host root key headers libs :=
  ⟨_, _, includeDirs_usual host root key.version key.driver,
    libDirs_usual host root key.version key.driver key.arch⟩

namespace HasDirs

variable {host : Template.Parts} {root : Path} {key : ConfigKey} {headers libs : List Path}

theorem havePartsBelow_headers (hasDirs : HasDirs host root key headers libs)
    (readable : key.version.IsReadable) :
    HavePartsBelow root headers
      (usualParts "Include" [] (headerTails key.driver.driverClass) key.version key.driver) := by
  have tailSteps : ∀ tail ∈ headerTails key.driver.driverClass,
      ∀ part ∈ tail, isStep part.toList = true := by
    cases key.driver.driverClass <;> decide
  have made := hasDirs.headers
  rw [includeDirs_usual] at made
  rw [← Except.ok.inj made]
  apply HavePartsBelow.map_below
  intro parts member
  exact isStep_of_mem_usualParts isOrdinary_include tailSteps readable member

theorem havePartsBelow_libs (hasDirs : HasDirs host root key headers libs)
    (readable : key.version.IsReadable) : HavePartsBelow root libs (libParts key) := by
  have tailSteps : ∀ tail ∈ libTails key.arch key.driver.driverClass,
      ∀ part ∈ tail, isStep part.toList = true := by
    cases key.driver.driverClass <;> cases key.arch <;> decide
  have made := hasDirs.libs
  rw [libDirs_usual] at made
  rw [← Except.ok.inj made]
  apply HavePartsBelow.map_below
  intro parts member
  exact isStep_of_mem_usualParts (isOrdinary_lib key.arch) tailSteps readable member

theorem nodup (hasDirs : HasDirs host root key headers libs) (readable : key.version.IsReadable) :
    headers.Nodup ∧ libs.Nodup := by
  have headerTailsNodup : (headerTails key.driver.driverClass).Nodup := by
    cases key.driver.driverClass <;> decide
  have libTailsNodup : (libTails key.arch key.driver.driverClass).Nodup := by
    cases key.driver.driverClass <;> simp [libTails]
  constructor
  · exact (hasDirs.havePartsBelow_headers readable).nodup (nodup_usualParts headerTailsNodup)
  · exact (hasDirs.havePartsBelow_libs readable).nodup (nodup_usualParts libTailsNodup)

end HasDirs

/-- Two builds have the same library directories only if they are for the same fields of a version,
the same driver and the same architecture. With different architectures they share none, and
without another difference they have the same headers. No directory is listed twice. -/
theorem dirs_tell_builds_apart (host : Template.Parts) (root : Path) {left right : ConfigKey}
    (leftRead : ∃ text, KitVersion.read text = .ok left.version)
    (rightRead : ∃ text, KitVersion.read text = .ok right.version) :
    ∃ leftHeaders leftLibs rightHeaders rightLibs,
      HasDirs host root left leftHeaders leftLibs ∧ HasDirs host root right rightHeaders rightLibs ∧
        (leftLibs = rightLibs ↔ left = right) ∧
          (left.arch ≠ right.arch → leftLibs.Disjoint rightLibs) ∧
            (left.version = right.version → left.driver = right.driver →
              leftHeaders = rightHeaders) ∧
              leftHeaders.Nodup ∧ leftLibs.Nodup ∧ rightHeaders.Nodup ∧ rightLibs.Nodup := by
  obtain ⟨_, leftAccepted⟩ := leftRead
  obtain ⟨_, rightAccepted⟩ := rightRead
  have leftReadable := KitVersion.isReadable_of_read leftAccepted
  have rightReadable := KitVersion.isReadable_of_read rightAccepted
  obtain ⟨leftHeaders, leftLibs, leftDirs⟩ := exists_hasDirs host root left
  obtain ⟨rightHeaders, rightLibs, rightDirs⟩ := exists_hasDirs host root right
  have leftParts := leftDirs.havePartsBelow_libs leftReadable
  have rightParts := rightDirs.havePartsBelow_libs rightReadable
  obtain ⟨leftHeadersNodup, leftLibsNodup⟩ := leftDirs.nodup leftReadable
  obtain ⟨rightHeadersNodup, rightLibsNodup⟩ := rightDirs.nodup rightReadable
  refine ⟨leftHeaders, leftLibs, rightHeaders, rightLibs, leftDirs, rightDirs, ?_, ?_, ?_,
    leftHeadersNodup, leftLibsNodup, rightHeadersNodup, rightLibsNodup⟩
  · constructor
    · intro sameLibs
      exact eq_of_libParts_eq leftReadable rightReadable (leftParts.parts_eq rightParts sameLibs)
    · intro same
      have made := leftDirs.libs
      rw [same, rightDirs.libs] at made
      exact (Except.ok.inj made).symm
  · intro different
    exact leftParts.disjoint rightParts (disjoint_libParts different)
  · intro sameVersion sameDriver
    have made := leftDirs.headers
    rw [sameVersion, sameDriver, rightDirs.headers] at made
    exact (Except.ok.inj made).symm

/-- Two versions that count as equal but are written differently, and two architectures. -/
theorem dirs_tell_builds_apart_widths :
    let short : ConfigKey := ⟨⟨[10, 0, 22621]⟩, .kmdf 33, .x64⟩
    let long : ConfigKey := ⟨⟨[10, 0, 22621, 0]⟩, .kmdf 33, .x64⟩
    let other : ConfigKey := ⟨⟨[10, 0, 22621, 0]⟩, .kmdf 33, .arm64⟩
    short.same long = true ∧
      (∃ headers libs otherHeaders otherLibs,
        HasDirs .fewest (.ofText "kit") short headers libs ∧
          HasDirs .fewest (.ofText "kit") long otherHeaders otherLibs ∧ libs ≠ otherLibs) ∧
        ∃ headers libs otherHeaders otherLibs,
          HasDirs .fewest (.ofText "kit") long headers libs ∧
            HasDirs .fewest (.ofText "kit") other otherHeaders otherLibs ∧
              libs.Disjoint otherLibs ∧ headers = otherHeaders := by
  intro short long other
  have shortRead : KitVersion.read "10.0.22621" = .ok short.version := rfl
  have longRead : KitVersion.read "10.0.22621.0" = .ok long.version := rfl
  have otherRead : KitVersion.read "10.0.22621.0" = .ok other.version := rfl
  obtain ⟨headers, libs, longHeaders, longLibs, dirs, longDirs, sameIff, _⟩ :=
    dirs_tell_builds_apart .fewest (.ofText "kit") ⟨_, shortRead⟩ ⟨_, longRead⟩
  obtain
    ⟨keptHeaders, keptLibs, otherHeaders, otherLibs, keptDirs, otherDirs, _, apart, shared, _⟩ :=
    dirs_tell_builds_apart .fewest (.ofText "kit") ⟨_, longRead⟩ ⟨_, otherRead⟩
  have different : short ≠ long := by
    intro same
    cases congrArg (fun key => key.version.fields.length) same
  refine ⟨by decide, ⟨headers, libs, longHeaders, longLibs, dirs, longDirs, ?_⟩, ?_⟩
  · exact fun same => different (sameIff.mp same)
  · exact ⟨keptHeaders, keptLibs, otherHeaders, otherLibs, keptDirs, otherDirs,
      apart (by decide), shared rfl rfl⟩

end DriverKit.KitLayout
