import DriverKit.BuildConfig
import DriverKit.Driver.Reading
import DriverKit.KitVersion.Reading
import DriverKit.Yaml.Outline

/-!
# Cache documents

A build configuration as a document, and back. The document is a map with a format number; what is
read must have that number and every field that a configuration needs, but the fields may come in
any order and beside others.
-/

namespace DriverKit.Cache

open Yaml (Outline)

def formatNumber : Nat := 1

/-! ## Writing -/

def encode (config : BuildConfig) : List (String × Outline) :=
  [("format_version", .number formatNumber),
   ("driver_class", .text config.key.driver.driverClass.name),
   ("framework_version", .optional (config.key.driver.framework?.map FrameworkVersion.text)),
   ("target_arch", .text config.key.arch.name),
   ("kit_version", .text config.key.version.text),
   ("kit_root", .text config.kitRoot.text),
   ("include_dirs", .texts (config.includeDirs.map Path.text)),
   ("lib_dirs", .texts (config.libDirs.map Path.text)),
   ("defines",
    .map ((Define.latest config.defines).map fun (name, value) =>
      (name, Outline.optional value))),
   ("link_libs", .texts config.linkLibs),
   ("rerun_paths", .texts (config.rerunPaths.map Path.text))]

/-! ## Reading -/

def required (fields : List (Scalar × Datum)) (name : String) : Except Failure Datum :=
  match Datum.field? fields name with
  | some value => .ok value
  | none => .error (.misuse (.absentKey (.text name)))

/-- What a value gives when it is gone through: the items of a list, the keys of a map, the
characters of a text. -/
def items (value : Datum) : Except Failure (List Datum) :=
  match value.opened with
  | .list items => .ok items
  | .map entries => .ok (entries.map fun entry => .scalar entry.1)
  | .set members => .ok (members.map .scalar)
  | .pair first second => .ok [first, second]
  | .text characters => .ok (characters.toList.map fun c => .text (String.singleton c))
  | .scalar (.bytes bytes) => .ok (bytes.map fun byte => .int byte.toNat)
  | _ => .error (.misuse .notIterable)

/-- The path that a value names: only a text names one. -/
def path (value : Datum) : Except Failure Path :=
  match value with
  | .text text => .ok (Path.ofText text)
  | _ => .error (.misuse .notPath)

/-- The paths that a value gives when it is gone through. -/
def paths (value : Datum) : Except Failure (List Path) := do
  (← items value).mapM path

/-- The definitions of a map: every name and value as a text, the absent value for none. -/
def readDefines (value : Datum) : Except Failure (List Define) :=
  match value.present?.map Datum.opened with
  | none => .ok []
  | some (.map entries) => do
      let defines ← entries.mapM fun (key, value) => do
        let name ← (Datum.scalar key).write
        if value.isNull then return ((name, none) : Define)
        else return (name, some (← value.write))
      return Define.latest defines
  | some _ => .error (.misuse .notMapping)

def readKey (fields : List (Scalar × Datum)) : Except Failure ConfigKey := do
  let version ← KitVersion.ofDatum (← required fields "kit_version")
  let driverClass ← required fields "driver_class"
  let framework ← required fields "framework_version"
  let driver ← DriverConfig.ofData driverClass framework
  let arch ← Arch.read (← (← required fields "target_arch").write)
  return ⟨version, driver, arch⟩

def decode (document : Datum) : Except Failure BuildConfig := do
  match document.opened with
  | .map fields =>
      let format := (Datum.field? fields "format_version").getD .null
      let supported :=
        match format with
        | .scalar value => value.same (.int formatNumber)
        | _ => false
      if !supported then
        if format.isWritable then .error (.misuse (.unsupportedFormat format.shown))
        else .error (.misuse .overlongNumeral)
      else
        let key ← readKey fields
        let kitRoot ← path (← required fields "kit_root")
        let includeDirs ← paths (← required fields "include_dirs")
        let libDirs ← paths (← required fields "lib_dirs")
        let defines ← readDefines ((Datum.field? fields "defines").getD .null)
        let linkLibs ← (← items (← required fields "link_libs")).mapM Datum.write
        let rerunPaths ←
          match (Datum.field? fields "rerun_paths").bind Datum.present? with
          | none => .ok []
          | some value => paths value
        return ⟨key, kitRoot, includeDirs, libDirs, defines, linkLibs, rerunPaths⟩
  | _ => .error (.misuse .notMapping)

end DriverKit.Cache
