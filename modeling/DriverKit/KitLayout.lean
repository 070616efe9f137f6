import DriverKit.Driver.Reading
import DriverKit.Template.Expand

/-!
# Layout of a kit

Where a kit keeps its headers and libraries. Each driver class has tiers of directories, the
strongest first: a header or library that several tiers have is taken from the first of them. A
tier is a template for a path below the root of the kit. Options can replace the tiers of a class;
the tiers of the other classes stay.
-/

namespace DriverKit

/-- One directory of a class, as a template below the root of a kit. -/
structure Tier where
  name : Datum
  template : String
deriving Repr

namespace Tier

def named (name template : String) : Tier := ⟨.text name, template⟩

def defaultName : Datum := .text "custom"

/-- The values of the fields of a template. The bare kernel model has no framework numbers, and
header directories have no architecture. -/
def bindings (version : KitVersion) (config : DriverConfig) (arch : Option Arch) :
    Template.Bindings :=
  let number (part : FrameworkVersion → Int) : Template.Value :=
    match config.framework? with
    | some framework => .whole (part framework)
    | none => .text []
  [("version", .release version),
   ("major", number FrameworkVersion.major),
   ("minor", number FrameworkVersion.minor),
   ("arch", .text ((arch.map Arch.name).getD "").toList)]

def expand (tier : Tier) (parts : Template.Parts) (root : Path) (version : KitVersion)
    (config : DriverConfig) (arch : Option Arch) : Except Failure Path := do
  let below ← Template.expand parts (bindings version config arch) tier.template
  return root.extend below.toList

end Tier

/-- The tiers of every class, for headers and for libraries. -/
structure KitLayout where
  includeTiers : DriverClass → List Tier
  libTiers : DriverClass → List Tier
  /-- What the host says about the parts of values that templates ask for. -/
  parts : Template.Parts

namespace KitLayout

/-! ## The built-in layout -/

def usualIncludeTiers : DriverClass → List Tier
  | .kmdf =>
      [.named "driver_class" "Include/wdf/kmdf/\x7bmajor\x7d.\x7bminor\x7d",
       .named "driver_shared" "Include/\x7bversion\x7d/km",
       .named "sdk_shared" "Include/\x7bversion\x7d/shared",
       .named "runtime" "Include/\x7bversion\x7d/km/crt"]
  | .umdf =>
      [.named "driver_class" "Include/wdf/umdf/\x7bmajor\x7d.\x7bminor\x7d",
       .named "driver_shared" "Include/\x7bversion\x7d/um",
       .named "sdk_shared" "Include/\x7bversion\x7d/shared",
       .named "runtime" "Include/\x7bversion\x7d/ucrt"]
  | .wdm =>
      [.named "driver_shared" "Include/\x7bversion\x7d/km",
       .named "sdk_shared" "Include/\x7bversion\x7d/shared",
       .named "runtime" "Include/\x7bversion\x7d/km/crt"]

def usualLibTiers : DriverClass → List Tier
  | .kmdf =>
      [.named "driver_class" "Lib/wdf/kmdf/\x7barch\x7d/\x7bmajor\x7d.\x7bminor\x7d",
       .named "driver_shared" "Lib/\x7bversion\x7d/km/\x7barch\x7d"]
  | .umdf =>
      [.named "driver_class" "Lib/wdf/umdf/\x7barch\x7d/\x7bmajor\x7d.\x7bminor\x7d",
       .named "driver_shared" "Lib/\x7bversion\x7d/um/\x7barch\x7d"]
  | .wdm => [.named "driver_shared" "Lib/\x7bversion\x7d/km/\x7barch\x7d"]

def usual (parts : Template.Parts) : KitLayout := ⟨usualIncludeTiers, usualLibTiers, parts⟩

/-! ## Layouts from options -/

/-- Tiers that replace those of some classes; of several entries for a class the last counts. -/
abbrev Overrides := List (DriverClass × List Tier)

def override (tiers : DriverClass → List Tier) (overrides : Overrides) :
    DriverClass → List Tier :=
  overrides.foldl
    (fun tiers entry driverClass => if driverClass = entry.1 then entry.2 else tiers driverClass)
    tiers

def readTier (group className : String) (entry : Datum) : Except Failure Tier :=
  let refusal : Failure := .invalidConfig (.tierWithoutTemplate group className) []
  match entry.opened with
  | .map fields =>
      match Datum.field? fields "template" with
      | some template => do
          return ⟨(Datum.field? fields "name").getD Tier.defaultName, ← template.write⟩
      | none => .error refusal
  | _ => .error refusal

def readTiers (group className : String) (entries : Datum) : Except Failure (List Tier) :=
  match entries.opened with
  | .list items => items.mapM (readTier group className)
  | _ => .error (.invalidConfig (.tiersNotList group className) [])

def readGroup (fields : List (Scalar × Datum)) (group : String) : Except Failure Overrides :=
  match ((Datum.field? fields group).bind Datum.present?).map Datum.opened with
  | none => .ok []
  | some (.map entries) =>
      entries.mapM fun (key, tiers) => do
        let className ← (Datum.scalar key).write
        let driverClass ← DriverClass.read className
        return (driverClass, ← readTiers group className tiers)
  | some _ => .error (.misuse .notMapping)

/-- The layout that options ask for: the built-in one, unless a map replaces tiers of it. -/
def ofDatum (parts : Template.Parts) (value : Datum) : Except Failure KitLayout :=
  match value.present?.map Datum.opened with
  | none => .ok (usual parts)
  | some (.map fields) => do
      let includes ← readGroup fields "include_tiers"
      let libs ← readGroup fields "lib_tiers"
      return ⟨override usualIncludeTiers includes, override usualLibTiers libs, parts⟩
  | some _ => .error (.invalidConfig .layoutNotMapping [])

/-! ## Directories of a kit -/

/-- The directory below a root whose subdirectories are named by the installed versions. -/
def versionRoot (root : Path) : Path := root.child "Lib"

/-- Tells whether a subdirectory may be named by a version: all may but the frameworks' own. -/
def isVersionCandidate (name : String) : Bool := Text.lower name != "wdf"

def includeDirs (layout : KitLayout) (root : Path) (version : KitVersion)
    (config : DriverConfig) : Except Failure (List Path) :=
  (layout.includeTiers config.driverClass).mapM
    (·.expand layout.parts root version config none)

/-- The library directories of a configuration and an architecture, the strongest first. -/
def libDirs (layout : KitLayout) (root : Path) (version : KitVersion) (config : DriverConfig)
    (arch : Arch) : Except Failure (List Path) :=
  (layout.libTiers config.driverClass).mapM
    (·.expand layout.parts root version config (some arch))

end KitLayout

end DriverKit
