import DriverKit.KitLayout
import DriverKit.Proofs.Distinct
import DriverKit.Proofs.Driver
import DriverKit.Proofs.KitVersion
import DriverKit.Proofs.Path

/-!
# Directories of the built-in layout

What the built-in tiers are filled in to, for every version of a kit and every driver. A driver
with a framework has one directory of the framework among them, named by the version of the
framework; all other directories belong to the release and lead into no framework, since a release
is named in digits and dots.
-/

namespace DriverKit

open DriverKit.Text

namespace KitLayout

/-! ## Parts of the directories -/

/-- The path below a root that has some parts between its slashes. -/
def below (root : Path) (parts : List String) : Path :=
  root.extend (['/'].intercalate (parts.map String.toList))

/-- The parts of the directory of a framework. -/
def frameworkParts (top : String) (inner : List String) (own : DriverClass)
    (number : FrameworkVersion) : List String :=
  top :: "wdf" :: own.smallName :: (inner ++ [number.text])

/-- The parts of the directories below a top directory: that of the framework, if there is one, and
those of the release. -/
def usualParts (top : String) (inner : List String) (tails : List (List String))
    (version : KitVersion) (driver : DriverConfig) : List (List String) :=
  (driver.framework?.map (frameworkParts top inner driver.driverClass)).toList
    ++ tails.map fun tail => top :: version.text :: tail

/-- Where the headers of a class are in a release. -/
def headerTails : DriverClass → List (List String)
  | .umdf => [["um"], ["shared"], ["ucrt"]]
  | _ => [["km"], ["shared"], ["km", "crt"]]

/-- Where the libraries of a class are in a release. -/
def libTails (arch : Arch) : DriverClass → List (List String)
  | .umdf => [["um", arch.name]]
  | _ => [["km", arch.name]]

theorem expand_eq_below {host : Template.Parts} {tier : Tier} {root : Path} {version : KitVersion}
    {driver : DriverConfig} {arch : Option Arch} {parts : List String}
    (filled : Template.expandWithin host (Tier.bindings version driver arch) 2 tier.template.toList
      = .ok (['/'].intercalate (parts.map String.toList))) :
    tier.expand host root version driver arch = .ok (below root parts) := by
  have named : (String.ofList (['/'].intercalate (parts.map String.toList))).toList
      = ['/'].intercalate (parts.map String.toList) := String.toList_ofList
  rw [Tier.expand, Template.expand, filled]
  show Except.ok (root.extend _) = _
  rw [named, below]

theorem includeDirs_usual (host : Template.Parts) (root : Path) (version : KitVersion)
    (driver : DriverConfig) :
    (usual host).includeDirs root version driver
      = .ok
          ((usualParts "Include" [] (headerTails driver.driverClass) version driver).map
            (below root)) := by
  refine mapM_eq_ok_iff.mpr ?_
  rw [List.forall₂_map_right_iff]
  cases driver with
  | kmdf minor =>
      have framework :
          Template.expandWithin host (Tier.bindings version (.kmdf minor) none) 2
              "Include/wdf/kmdf/\x7bmajor\x7d.\x7bminor\x7d".toList
            = .ok ("Include/wdf/kmdf/".toList
                ++ ((writeInteger 1).toList ++ '.' :: ((writeInteger minor).toList ++ []))) := rfl
      refine .cons (expand_eq_below (framework.trans ?_)) <| .cons (expand_eq_below rfl) <|
        .cons (expand_eq_below rfl) <| .cons (expand_eq_below rfl) .nil
      simp [frameworkParts, FrameworkVersion.toList_text, DriverConfig.driverClass,
        DriverClass.smallName, DriverClass.frameworkMajor]
  | umdf minor =>
      have framework :
          Template.expandWithin host (Tier.bindings version (.umdf minor) none) 2
              "Include/wdf/umdf/\x7bmajor\x7d.\x7bminor\x7d".toList
            = .ok ("Include/wdf/umdf/".toList
                ++ ((writeInteger 2).toList ++ '.' :: ((writeInteger minor).toList ++ []))) := rfl
      refine .cons (expand_eq_below (framework.trans ?_)) <| .cons (expand_eq_below rfl) <|
        .cons (expand_eq_below rfl) <| .cons (expand_eq_below rfl) .nil
      simp [frameworkParts, FrameworkVersion.toList_text, DriverConfig.driverClass,
        DriverClass.smallName, DriverClass.frameworkMajor]
  | wdm =>
      exact .cons (expand_eq_below rfl) <| .cons (expand_eq_below rfl) <|
        .cons (expand_eq_below rfl) .nil

theorem libDirs_usual (host : Template.Parts) (root : Path) (version : KitVersion)
    (driver : DriverConfig) (arch : Arch) :
    (usual host).libDirs root version driver arch
      = .ok
          ((usualParts "Lib" [arch.name] (libTails arch driver.driverClass) version driver).map
            (below root)) := by
  refine mapM_eq_ok_iff.mpr ?_
  rw [List.forall₂_map_right_iff]
  cases driver with
  | kmdf minor =>
      have framework :
          Template.expandWithin host (Tier.bindings version (.kmdf minor) (some arch)) 2
              "Lib/wdf/kmdf/\x7barch\x7d/\x7bmajor\x7d.\x7bminor\x7d".toList
            = .ok ("Lib/wdf/kmdf/".toList ++ (arch.name.toList ++ ("/".toList
                ++ ((writeInteger 1).toList
                  ++ (".".toList ++ ((writeInteger minor).toList ++ [])))))) := rfl
      refine .cons (expand_eq_below (framework.trans ?_)) <| .cons (expand_eq_below rfl) .nil
      simp [frameworkParts, FrameworkVersion.toList_text, DriverConfig.driverClass,
        DriverClass.smallName, DriverClass.frameworkMajor]
  | umdf minor =>
      have framework :
          Template.expandWithin host (Tier.bindings version (.umdf minor) (some arch)) 2
              "Lib/wdf/umdf/\x7barch\x7d/\x7bmajor\x7d.\x7bminor\x7d".toList
            = .ok ("Lib/wdf/umdf/".toList ++ (arch.name.toList ++ ("/".toList
                ++ ((writeInteger 2).toList
                  ++ (".".toList ++ ((writeInteger minor).toList ++ [])))))) := rfl
      refine .cons (expand_eq_below (framework.trans ?_)) <| .cons (expand_eq_below rfl) .nil
      simp [frameworkParts, FrameworkVersion.toList_text, DriverConfig.driverClass,
        DriverClass.smallName, DriverClass.frameworkMajor]
  | wdm => exact .cons (expand_eq_below rfl) .nil

/-! ## Steps of the directories -/

theorem steps_below (root : Path) (parts : List String) :
    (below root parts).steps =
      root.steps ++ parts.flatMap fun part => Path.stepsOf part.toList := by
  show root.steps ++ Path.stepsOf _ = _
  rw [Path.stepsOf_intercalate_eq_flatMap, List.flatMap_map]

end KitLayout

/-! ## Directories of frameworks -/

/-- A path leads into the directory of a framework below a root. -/
def Path.LeadsInto (path root : Path) (framework : DriverClass) : Prop :=
  path.anchor = root.anchor ∧
    ∃ steps, path.steps = root.steps ++ steps ∧ ["wdf", framework.smallName] <:+: steps

namespace KitLayout

/-- Directories show the class of a driver and the version of its framework: just those of a driver
of a framework lead into that framework, and what leads there is named by the version. -/
structure ShowsDriver (dirs : List Path) (root : Path) (driver : DriverConfig) : Prop where
  leadsInto_iff : ∀ framework : DriverClass, framework.usesFramework = true →
    ((∃ path ∈ dirs, path.LeadsInto root framework) ↔ driver.driverClass = framework)
  name : ∀ framework : DriverClass, framework.usesFramework = true →
    ∀ path ∈ dirs, path.LeadsInto root framework →
      ∃ number, driver.framework? = some number ∧ path.name = number.text

theorem leadsInto_below_iff {root : Path} {parts : List String} {framework : DriverClass} :
    (below root parts).LeadsInto root framework ↔
      ["wdf", framework.smallName] <:+: parts.flatMap fun part => Path.stepsOf part.toList := by
  unfold Path.LeadsInto
  rw [steps_below]
  constructor
  · rintro ⟨_, steps, same, leads⟩
    rw [List.append_cancel_left same]
    exact leads
  · intro leads
    exact ⟨rfl, _, rfl, leads⟩

/-- A release is named in digits and dots, which do not spell the mark of frameworks. -/
theorem text_ne_mark (version : KitVersion) : version.text ≠ "wdf" := by
  intro spelled
  have letter : 'w' ∈ version.text.toList := by
    rw [spelled]
    decide
  rcases KitVersion.isPlainDigit_of_mem_text letter with isDot | isDigit
  · exact absurd isDot (by decide)
  · exact absurd isDigit (by decide)

theorem not_leadsInto_release {root : Path} {top : String} {version : KitVersion}
    {tail : List String} {framework : DriverClass}
    (ordinary : "wdf" ∉ (top :: tail).flatMap fun part => Path.stepsOf part.toList) :
    ¬(below root (top :: version.text :: tail)).LeadsInto root framework := by
  intro leads
  have member := (leadsInto_below_iff.mp leads).subset List.mem_cons_self
  rw [List.flatMap_cons, List.mem_append] at ordinary
  simp only [List.flatMap_cons, List.mem_append] at member
  rcases member with inTop | inVersion | inTail
  · exact ordinary (Or.inl inTop)
  · have noSlash : '/' ∉ version.text.toList := by
      intro isSlash
      rcases KitVersion.isPlainDigit_of_mem_text isSlash with isDot | isDigit
      · exact absurd isDot (by decide)
      · exact absurd isDigit (by decide)
    have spelled : "wdf".toList = version.text.toList := by
      rw [Path.mem_stepsOf noSlash inVersion, String.toList_ofList]
    exact absurd (String.toList_inj.mp spelled).symm (text_ne_mark version)
  · exact ordinary (Or.inr inTail)

theorem text_ne_smallName (number : FrameworkVersion) (framework : DriverClass) :
    number.text ≠ framework.smallName := by
  intro same
  have dot : '.' ∈ framework.smallName.toList := by
    rw [← same, FrameworkVersion.toList_text]
    exact List.mem_append_right _ List.mem_cons_self
  cases framework with
  | kmdf => exact absurd dot (by decide)
  | umdf => exact absurd dot (by decide)
  | wdm => exact absurd dot (by decide)

theorem smallName_inj {left right : DriverClass} :
    left.smallName = right.smallName ↔ left = right := by
  cases left <;> cases right <;> decide

/-- The parts that lie between the top directory and the release or framework are single steps that
no framework has as its name. -/
structure IsOrdinary (parts : List String) : Prop where
  isStep : ∀ part ∈ parts, isStep part.toList = true
  others : ∀ framework : DriverClass, framework.smallName ∉ parts

theorem isStep_of_mem_frameworkParts {top : String} {inner : List String} {own : DriverClass}
    {number : FrameworkVersion} (ordinary : IsOrdinary (top :: inner)) :
    ∀ part ∈ frameworkParts top inner own number, isStep part.toList = true := by
  intro part member
  simp only [frameworkParts, List.mem_cons, List.mem_append, List.not_mem_nil, or_false] at member
  rcases member with isTop | isMark | isOwn | inInner | isText
  · exact ordinary.isStep part (isTop ▸ List.mem_cons_self)
  · rw [isMark]
    decide
  · rw [isOwn]
    cases own <;> decide
  · exact ordinary.isStep part (List.mem_cons_of_mem top inInner)
  · rw [isText]
    exact number.isStep_text

theorem leadsInto_framework_iff {root : Path} {top : String} {inner : List String}
    {own framework : DriverClass} {number : FrameworkVersion}
    (ordinary : IsOrdinary (top :: inner)) :
    (below root (frameworkParts top inner own number)).LeadsInto root framework ↔
      own = framework := by
  rw [leadsInto_below_iff, Path.flatMap_stepsOf (isStep_of_mem_frameworkParts ordinary)]
  constructor
  · intro leads
    have member := leads.subset (List.mem_cons_of_mem _ List.mem_cons_self)
    simp only [frameworkParts, List.mem_cons, List.mem_append, List.not_mem_nil, or_false] at member
    rcases member with isTop | isMark | isOwn | inInner | isText
    · exact absurd (isTop ▸ List.mem_cons_self) (ordinary.others framework)
    · cases framework <;> exact absurd isMark (by decide)
    · exact (smallName_inj.mp isOwn).symm
    · exact absurd (List.mem_cons_of_mem top inInner) (ordinary.others framework)
    · exact absurd isText.symm (text_ne_smallName number framework)
  · rintro rfl
    exact ⟨[top], inner ++ [number.text], rfl⟩

theorem name_framework {root : Path} {top : String} {inner : List String} {own : DriverClass}
    {number : FrameworkVersion} :
    (below root (frameworkParts top inner own number)).name = number.text := by
  have last : (below root (frameworkParts top inner own number)).steps.getLast?
      = some number.text := by
    rw [steps_below]
    simp [frameworkParts, Path.stepsOf_of_isStep number.isStep_text]
  rw [Path.name, last]
  rfl

theorem mem_usualParts_iff {top : String} {inner : List String} {tails : List (List String)}
    {version : KitVersion} {driver : DriverConfig} {parts : List String} :
    parts ∈ usualParts top inner tails version driver ↔
      (∃ number, driver.framework? = some number ∧
          parts = frameworkParts top inner driver.driverClass number) ∨
        ∃ tail ∈ tails, parts = top :: version.text :: tail := by
  unfold usualParts
  rw [List.mem_append, Option.mem_toList, Option.map_eq_some_iff, List.mem_map]
  constructor
  · rintro (⟨number, found, rfl⟩ | ⟨tail, inTails, rfl⟩)
    · exact Or.inl ⟨number, found, rfl⟩
    · exact Or.inr ⟨tail, inTails, rfl⟩
  · rintro (⟨number, found, rfl⟩ | ⟨tail, inTails, rfl⟩)
    · exact Or.inl ⟨number, found, rfl⟩
    · exact Or.inr ⟨tail, inTails, rfl⟩

theorem exists_framework_of_uses {driver : DriverConfig} {framework : DriverClass}
    (uses : framework.usesFramework = true) (same : driver.driverClass = framework) :
    ∃ number, driver.framework? = some number := by
  cases driver with
  | kmdf minor => exact ⟨_, rfl⟩
  | umdf minor => exact ⟨_, rfl⟩
  | wdm =>
      rw [← same] at uses
      cases uses

theorem showsDriver_usualParts {root : Path} {top : String} {inner : List String}
    {tails : List (List String)} {version : KitVersion} {driver : DriverConfig}
    (ordinary : IsOrdinary (top :: inner))
    (releases : ∀ tail ∈ tails,
      "wdf" ∉ (top :: tail).flatMap fun part => Path.stepsOf part.toList) :
    ShowsDriver ((usualParts top inner tails version driver).map (below root)) root driver := by
  have framework_of_leadsInto : ∀ framework : DriverClass,
      ∀ path ∈ (usualParts top inner tails version driver).map (below root),
        path.LeadsInto root framework →
          driver.driverClass = framework ∧
            ∃ number, driver.framework? = some number ∧ path.name = number.text := by
    intro framework path member leads
    obtain ⟨parts, inParts, rfl⟩ := List.mem_map.mp member
    rcases mem_usualParts_iff.mp inParts with ⟨number, found, rfl⟩ | ⟨tail, inTails, rfl⟩
    · exact ⟨(leadsInto_framework_iff ordinary).mp leads, number, found, name_framework⟩
    · exact absurd leads (not_leadsInto_release (releases tail inTails))
  constructor
  · intro framework uses
    constructor
    · rintro ⟨path, member, leads⟩
      exact (framework_of_leadsInto framework path member leads).1
    · intro same
      obtain ⟨number, found⟩ := exists_framework_of_uses uses same
      have inParts :
          frameworkParts top inner driver.driverClass number
            ∈ usualParts top inner tails version driver :=
        mem_usualParts_iff.mpr (Or.inl ⟨number, found, rfl⟩)
      exact ⟨_, List.mem_map_of_mem inParts, (leadsInto_framework_iff ordinary).mpr same⟩
  · intro framework _ path member leads
    exact (framework_of_leadsInto framework path member leads).2

theorem ShowsDriver.distinct {dirs : List Path} {root : Path} {driver : DriverConfig}
    (driverShown : ShowsDriver dirs root driver) :
    ShowsDriver (DriverKit.distinct dirs) root driver := by
  constructor
  · intro framework uses
    simp only [mem_distinct]
    exact driverShown.leadsInto_iff framework uses
  · intro framework uses path member leads
    exact driverShown.name framework uses path (mem_distinct.mp member) leads

/-! ## Headers and libraries -/

theorem isOrdinary_include : IsOrdinary ["Include"] := by
  constructor
  · decide
  · intro framework
    cases framework <;> decide

theorem isOrdinary_lib (arch : Arch) : IsOrdinary ["Lib", arch.name] := by
  constructor
  · cases arch <;> decide
  · intro framework
    cases arch <;> cases framework <;> decide

theorem showsDriver_includeDirs {host : Template.Parts} {root : Path} {version : KitVersion}
    {driver : DriverConfig} {dirs : List Path}
    (made : (usual host).includeDirs root version driver = .ok dirs) :
    ShowsDriver dirs root driver := by
  have releases : ∀ tail ∈ headerTails driver.driverClass,
      "wdf" ∉ ("Include" :: tail).flatMap fun part => Path.stepsOf part.toList := by
    cases driver.driverClass <;> decide
  rw [includeDirs_usual] at made
  cases made
  exact showsDriver_usualParts isOrdinary_include releases

theorem showsDriver_libDirs {host : Template.Parts} {root : Path} {version : KitVersion}
    {driver : DriverConfig} {arch : Arch} {dirs : List Path}
    (made : (usual host).libDirs root version driver arch = .ok dirs) :
    ShowsDriver dirs root driver := by
  have releases : ∀ tail ∈ libTails arch driver.driverClass,
      "wdf" ∉ ("Lib" :: tail).flatMap fun part => Path.stepsOf part.toList := by
    cases driver.driverClass <;> cases arch <;> decide
  rw [libDirs_usual] at made
  cases made
  exact showsDriver_usualParts (isOrdinary_lib arch) releases

end KitLayout

end DriverKit
