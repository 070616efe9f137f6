import DriverKit.Proofs.Directive
import DriverKit.Proofs.Path
import Mathlib.Data.List.Nodup
import Mathlib.Data.List.TakeWhile

/-!
# Groups of directives

What the orchestrator is told comes in four groups: where libraries are, which of them to link,
which paths to watch, and flags. A line begins with the mark of its group, and no mark is the start
of another line's. What follows the mark is read as the directive that was written, whatever paths
and names it holds, so the lines of a configuration tell all that their groups were made of.
-/

namespace DriverKit.Directive

open DriverKit.Text

/-! ## Marks -/

/-- The kinds of directives. -/
inductive Group where
  | searchPaths
  | libraries
  | watched
  | flags
deriving DecidableEq, Repr

namespace Group

def all : List Group := [.searchPaths, .libraries, .watched, .flags]

/-- How the lines of a group begin. -/
def mark : Group → String
  | .searchPaths => "cargo:rustc-link-search=native="
  | .libraries => "cargo:rustc-link-lib=static="
  | .watched => "cargo:rerun-if-changed="
  | .flags => "cargo:rustc-cfg="

/-- What follows the mark of a group in a line that begins with it. -/
def said? (group : Group) (line : String) : Option (List Char) :=
  line.toList.dropPrefix? group.mark.toList

theorem said?_mark_append (group : Group) (rest : String) :
    group.said? (group.mark ++ rest) = some rest.toList := by
  rw [said?, String.toList_append, List.dropPrefix?_eq_some_iff]
  exact ⟨group.mark.toList, rfl, beq_self_eq_true _⟩

theorem said?_mark_append_of_ne {group other : Group} (different : group ≠ other)
    (rest : String) : group.said? (other.mark ++ rest) = none := by
  rw [said?, String.toList_append]
  cases group <;> cases other <;> first | rfl | exact absurd rfl different

end Group

/-! ## Reading a line -/

def group : Directive → Group
  | .searchPath _ => .searchPaths
  | .library _ => .libraries
  | .rerunIfChanged _ => .watched
  | .cfg _ _ => .flags

/-- What the line of a directive says after its mark. -/
def detail : Directive → String
  | .searchPath path => path.text
  | .library name => name
  | .rerunIfChanged path => path.text
  | .cfg name none => name
  | .cfg name (some value) => name ++ "=\"" ++ value ++ "\""

theorem line_eq (directive : Directive) :
    directive.line = directive.group.mark ++ directive.detail := by
  cases directive with
  | searchPath path => rfl
  | library name => rfl
  | rerunIfChanged path => rfl
  | cfg name value =>
      cases value with
      | none => rfl
      | some value =>
          rw [detail, ← String.append_assoc, ← String.append_assoc, ← String.append_assoc]
          rfl

/-- A flag ends its name where the first equals sign is; its value is quoted. -/
def ofFlag (characters : List Char) : Directive :=
  let name := String.ofList (characters.takeWhile (· != '='))
  match characters.dropWhile (· != '=') with
  | '=' :: '"' :: value => .cfg name (some (String.ofList value.dropLast))
  | _ => .cfg name none

/-- The directive of a group that says what is given. -/
def ofDetail : Group → List Char → Directive
  | .searchPaths, characters => .searchPath (Path.ofText (String.ofList characters))
  | .libraries, characters => .library (String.ofList characters)
  | .watched, characters => .rerunIfChanged (Path.ofText (String.ofList characters))
  | .flags, characters => ofFlag characters

/-- The directive that a line was made of. -/
def ofLine? (line : String) : Option Directive :=
  Group.all.findSome? fun group => (group.said? line).map (ofDetail group)

/-- A directive of which no flag has an equals sign in its name. -/
def IsPlain : Directive → Prop
  | .cfg name _ => '=' ∉ name.toList
  | _ => True

/-- A name without an equals sign ends where one comes, or at the end. -/
theorem takeWhile_dropWhile_name {name : List Char} (plain : '=' ∉ name) (rest : List Char)
    (ended : ∀ c ∈ rest.head?, c = '=') :
    (name ++ rest).takeWhile (· != '=') = name ∧ (name ++ rest).dropWhile (· != '=') = rest := by
  have letters : ∀ c ∈ name, (c != '=') = true := by
    intro c member
    apply bne_iff_ne.mpr
    intro isEquals
    exact plain (isEquals ▸ member)
  rw [List.takeWhile_append_of_pos letters, List.dropWhile_append_of_pos letters]
  cases rest with
  | nil => simp
  | cons c others =>
      have isEquals : c = '=' := ended c rfl
      simp [isEquals]

theorem ofFlag_detail {name : String} (plain : '=' ∉ name.toList) (value : Option String) :
    ofFlag (cfg name value).detail.toList = .cfg name value := by
  cases value with
  | none =>
      have spelled : (cfg name none).detail.toList = name.toList ++ [] := by simp [detail]
      obtain ⟨front, back⟩ := takeWhile_dropWhile_name plain [] (by simp)
      rw [ofFlag, spelled, front, back]
      simp
  | some value =>
      have spelled : (cfg name (some value)).detail.toList
          = name.toList ++ '=' :: '"' :: (value.toList ++ ['"']) := by
        simp [detail]
      obtain ⟨front, back⟩ :=
        takeWhile_dropWhile_name plain ('=' :: '"' :: (value.toList ++ ['"'])) (by simp)
      rw [ofFlag, spelled, front, back]
      simp

theorem ofDetail_detail {directive : Directive} (plain : directive.IsPlain) :
    ofDetail directive.group directive.detail.toList = directive := by
  cases directive with
  | searchPath path => simp [group, detail, ofDetail, Path.ofText_text]
  | library name => simp [group, detail, ofDetail]
  | rerunIfChanged path => simp [group, detail, ofDetail, Path.ofText_text]
  | cfg name value => exact ofFlag_detail plain value

/-- A line is read as the directive that it was made of. -/
theorem ofLine?_line {directive : Directive} (plain : directive.IsPlain) :
    ofLine? directive.line = some directive := by
  have found : ∀ (group : Group) (rest : String),
      ofLine? (group.mark ++ rest) = some (ofDetail group rest.toList) := by
    intro group rest
    cases group <;>
      simp [ofLine?, Group.all, Group.said?_mark_append, Group.said?_mark_append_of_ne]
  rw [line_eq, found, ofDetail_detail plain]

theorem filterMap_ofLine? {directives : List Directive}
    (plain : ∀ directive ∈ directives, directive.IsPlain) :
    (directives.map line).filterMap ofLine? = directives := by
  induction directives with
  | nil => rfl
  | cons first rest inductionHypothesis =>
      rw [List.forall_mem_cons] at plain
      rw [List.map_cons, List.filterMap_cons_some (ofLine?_line plain.1),
        inductionHypothesis plain.2]

theorem nodup_map_line {directives : List Directive}
    (plain : ∀ directive ∈ directives, directive.IsPlain) (nodup : directives.Nodup) :
    (directives.map line).Nodup := by
  apply nodup.map_on
  intro directive member other otherMember sameLine
  have again := ofLine?_line (plain directive member)
  rw [sameLine, ofLine?_line (plain other otherMember)] at again
  exact (Option.some.inj again).symm

/-! ## Groups -/

/-- What an orchestrator is told, group by group. -/
structure Told where
  searchPaths : List Path
  libraries : List String
  watched : List Path
  flags : List (String × Option String)
deriving DecidableEq, Repr

namespace Told

def directives (told : Told) : List Directive :=
  told.searchPaths.map searchPath ++ told.libraries.map library
    ++ told.watched.map rerunIfChanged ++ told.flags.map fun flag => cfg flag.1 flag.2

/-- The groups of directives, in whatever order the directives are. -/
def ofDirectives (directives : List Directive) : Told where
  searchPaths := directives.filterMap fun | .searchPath path => some path | _ => none
  libraries := directives.filterMap fun | .library name => some name | _ => none
  watched := directives.filterMap fun | .rerunIfChanged path => some path | _ => none
  flags := directives.filterMap fun | .cfg name value => some (name, value) | _ => none

/-- The groups that lines tell. -/
def ofLines (lines : List String) : Told :=
  ofDirectives (lines.filterMap ofLine?)

theorem ofDirectives_directives (told : Told) : ofDirectives told.directives = told := by
  cases told
  simp [ofDirectives, directives, List.filterMap_map]

theorem nodup_directives {told : Told} (searchPaths : told.searchPaths.Nodup)
    (libraries : told.libraries.Nodup) (watched : told.watched.Nodup)
    (flags : told.flags.Nodup) : told.directives.Nodup := by
  have searchPathsApart : (told.searchPaths.map searchPath).Nodup :=
    searchPaths.map fun _ _ => searchPath.inj
  have librariesApart : (told.libraries.map library).Nodup :=
    libraries.map fun _ _ => library.inj
  have watchedApart : (told.watched.map rerunIfChanged).Nodup :=
    watched.map fun _ _ => rerunIfChanged.inj
  have flagsApart : (told.flags.map fun flag => cfg flag.1 flag.2).Nodup := by
    apply flags.map
    intro flag other same
    exact Prod.ext (cfg.inj same).1 (cfg.inj same).2
  simp only [directives, List.nodup_append, searchPathsApart, librariesApart, watchedApart,
    flagsApart, List.forall_mem_append, List.forall_mem_map, ne_eq, reduceCtorEq,
    not_false_eq_true, implies_true, and_self]

theorem isPlain_of_mem {told : Told} (plain : ∀ flag ∈ told.flags, '=' ∉ flag.1.toList) :
    ∀ directive ∈ told.directives, directive.IsPlain := by
  simp only [directives, List.forall_mem_append, List.forall_mem_map, IsPlain, implies_true,
    true_and]
  exact plain

theorem ofLines_directives {told : Told} (plain : ∀ flag ∈ told.flags, '=' ∉ flag.1.toList) :
    ofLines (told.directives.map line) = told := by
  rw [ofLines, filterMap_ofLine? (isPlain_of_mem plain), ofDirectives_directives]

end Told

/-! ## Directives of a configuration -/

/-- The flags of a driver: its class, and the version of its framework if it has one. -/
def driverFlags : DriverConfig → List (String × Option String)
  | .kmdf minor =>
      [("driver_type", some "KMDF"), ("kmdf_version", some ("1." ++ writeInteger minor))]
  | .umdf minor =>
      [("driver_type", some "UMDF"), ("umdf_version", some ("2." ++ writeInteger minor))]
  | .wdm => [("driver_type", some "WDM")]

/-- An orchestrator is told what a configuration has: each of its library directories, libraries
and paths to watch once, in the order in which they first occur, and the flags of its driver. -/
structure Told.IsOf (told : Told) (config : BuildConfig) : Prop where
  searchPaths : FirstsOf told.searchPaths config.libDirs
  libraries : FirstsOf told.libraries config.linkLibs
  watched : FirstsOf told.watched config.rerunPaths
  flags : told.flags = driverFlags config.key.driver

theorem ofDriver_eq (driver : DriverConfig) :
    ofDriver driver = (driverFlags driver).map fun flag => cfg flag.1 flag.2 := by
  have text : ∀ major minor : Int,
      FrameworkVersion.text ⟨major, minor⟩ = writeInteger major ++ "." ++ writeInteger minor :=
    fun _ _ => rfl
  have kernelFlag : DriverClass.kmdf.smallName ++ "_version" = "kmdf_version" := by decide
  have userFlag : DriverClass.umdf.smallName ++ "_version" = "umdf_version" := by decide
  have kernelMajor : writeInteger 1 ++ "." = "1." := by decide
  have userMajor : writeInteger 2 ++ "." = "2." := by decide
  cases driver with
  | kmdf minor =>
      simp [ofDriver, driverFlags, DriverConfig.framework?, DriverConfig.driverClass,
        DriverClass.frameworkMajor, DriverClass.name, text, kernelFlag, kernelMajor]
  | umdf minor =>
      simp [ofDriver, driverFlags, DriverConfig.framework?, DriverConfig.driverClass,
        DriverClass.frameworkMajor, DriverClass.name, text, userFlag, userMajor]
  | wdm => rfl

theorem nodup_driverFlags (driver : DriverConfig) : (driverFlags driver).Nodup := by
  cases driver with
  | kmdf minor => simp [driverFlags]
  | umdf minor => simp [driverFlags]
  | wdm => simp [driverFlags]

theorem plain_driverFlags (driver : DriverConfig) :
    ∀ flag ∈ driverFlags driver, '=' ∉ flag.1.toList := by
  cases driver with
  | kmdf minor => simp [driverFlags]
  | umdf minor => simp [driverFlags]
  | wdm => simp [driverFlags]

/-- What is emitted for a configuration is all that it has for an orchestrator, group by group and
nothing twice. No two lines are the same, and the lines tell the groups again. The directories of
headers, the definitions, the root and the version of the kit do not matter to them. -/
theorem emit_groups (config : BuildConfig) :
    let lines := (emit config).map line
    ∃ told : Told, told.IsOf config ∧ emit config = told.directives ∧
      (emit config).Nodup ∧ lines.Nodup ∧ Told.ofLines lines = told ∧
        ∀ (version : KitVersion) (kitRoot : Path) (includeDirs : List Path)
          (defines : List Define),
          (emit
              { config with
                key := { config.key with version }
                kitRoot, includeDirs, defines }).map line
            = lines := by
  intro lines
  let told : Told :=
    ⟨distinct config.libDirs, distinct config.linkLibs, distinct config.rerunPaths,
      driverFlags config.key.driver⟩
  have isOf : told.IsOf config :=
    ⟨firstsOf_distinct _, firstsOf_distinct _, firstsOf_distinct _, rfl⟩
  have emitted : emit config = told.directives := by
    rw [emit, ofDriver_eq]
    rfl
  have plain := plain_driverFlags config.key.driver
  have nodup : told.directives.Nodup :=
    Told.nodup_directives nodup_distinct nodup_distinct nodup_distinct (nodup_driverFlags _)
  have spelled : lines = told.directives.map line := congrArg (List.map line) emitted
  have linesNodup : lines.Nodup := by
    rw [spelled]
    exact nodup_map_line (Told.isPlain_of_mem plain) nodup
  have again : Told.ofLines lines = told := by
    rw [spelled]
    exact Told.ofLines_directives plain
  exact ⟨told, isOf, emitted, emitted ▸ nodup, linesNodup, again, fun _ _ _ _ => rfl⟩

end DriverKit.Directive
