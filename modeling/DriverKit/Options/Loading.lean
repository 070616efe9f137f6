import DriverKit.Disk.Basic
import DriverKit.Environment
import DriverKit.Options.Basic
import DriverKit.Yaml.Reading

/-!
# Loading options

The options of a build from a file and from the environment. A variable that is set wins over the
file. The architecture that the build orchestrator builds for is used if neither gives one.
-/

namespace DriverKit.Options

/-! ## Names -/

/-- The options that a variable can set, with the names of the variables. -/
def sources : List (String × String) :=
  [("driver_class", "WDK_DRIVER_CLASS"), ("kmdf_version", "WDK_KMDF_VERSION"),
   ("umdf_version", "WDK_UMDF_VERSION"), ("target_arch", "WDK_TARGET_ARCH"),
   ("pinned_kit_version", "WDK_PINNED_KIT_VERSION")]

/-- The variable in which the orchestrator gives the architecture that it builds for. -/
def orchestratorVariable : String := "CARGO_CFG_TARGET_ARCH"

def known : List String := sources.map Prod.fst ++ ["layout"]

/-- The file that options are read from if no other is named. -/
def usualFile : Path := Path.ofText "wdk.yaml"

/-! ## Files -/

/-- Options as they are written, by their names. -/
abbrev Fields := List (Scalar × Datum)

/-- The options that a map holds, itself or in a map under a name of their own. -/
def nested (fields : Fields) : Fields :=
  match (Datum.field? fields "wdk").map Datum.opened with
  | some (.map inner) => inner
  | _ => fields

/-- Refuses names that are no options; keys that are no texts cannot even be named. -/
def refuseUnknown (path : Path) (fields : Fields) : Except Failure Unit :=
  let unknown := (fields.map Prod.fst).filter fun key => !(known.map Scalar.text).contains key
  if unknown.isEmpty then .ok ()
  else
    match unknown.mapM fun key => match key with
      | .text name => some name
      | _ => none with
    | some names =>
        .error (.invalidOptions (.unknownOptions path (names.mergeSort (· ≤ ·))) [])
    | none => .error (.misuse .mixedKeys)

def ofBytes (loader : Yaml.Loader) (path : Path) (bytes : ByteArray) : Except Failure Datum :=
  match loader.read bytes with
  | .ok value => .ok value
  | .error .malformed => .error (.invalidOptions (.optionsNotYaml path) [])
  | .error (.misuse cause) => .error (.misuse cause)

def readFile (loader : Yaml.Loader) (disk : Disk) (path : Path) : Traced Fields := do
  match disk.read path with
  | .error fault => Traced.fail (.invalidOptions (.optionsUnreadable path fault.message) [])
  | .ok bytes =>
      match (← ofBytes loader path bytes).opened with
      | .scalar .null => return []
      | .map fields =>
          let fields := nested fields
          refuseUnknown path fields
          Traced.say .debug .options ("Loaded options from " ++ path.text)
          return fields
      | _ => Traced.fail (.invalidOptions (.optionsNotMapping path) [])

def readFiles (loader : Yaml.Loader) (disk : Disk) (path : Option Path) : Traced Fields :=
  match path with
  | some path => do
      if ← disk.contains path then readFile loader disk path
      else Traced.fail (.invalidOptions (.optionsMissing path) [])
  | none => do
      if ← disk.contains usualFile then readFile loader disk usualFile else return []

/-! ## Environment -/

def override (environment : Environment) : List (String × String) → Fields → Traced Fields
  | [], fields => return fields
  | (name, source) :: rest, fields =>
      match environment.filled? source with
      | none => override environment rest fields
      | some value => do
          Traced.say .debug .options
            ("Option " ++ name ++ " overridden by " ++ source ++ "=" ++ value)
          override environment rest (Scalar.put (.text name) (.text value) fields)

/-- Sets the architecture that the orchestrator builds for, unless there is one. -/
def addOrchestrator (environment : Environment) (fields : Fields) : Fields :=
  match (Datum.field? fields "target_arch").bind Datum.present?,
      environment.filled? orchestratorVariable with
  | none, some arch => Scalar.put (.text "target_arch") (.text arch) fields
  | _, _ => fields

/-! ## Options -/

def textOf (fields : Fields) (name : String) : Except Failure Datum :=
  match Datum.field? fields name with
  | none => .ok .null
  | some value => if value.isNull then .ok .null else Datum.text <$> value.write

def ofFields (fields : Fields) : Except Failure Options := do
  let driverClass := (Datum.field? fields "driver_class").getD usual.driverClass
  return {
    driverClass := .text (← driverClass.write)
    kmdfVersion := ← textOf fields "kmdf_version"
    umdfVersion := ← textOf fields "umdf_version"
    targetArch := ← textOf fields "target_arch"
    pinnedVersion := ← textOf fields "pinned_kit_version"
    layout := ((Datum.field? fields "layout").bind Datum.present?).getD (.map []) }

def load (loader : Yaml.Loader) (disk : Disk) (environment : Environment) (path : Option Path) :
    Traced Options := do
  let fields ← readFiles loader disk path
  let fields ← override environment sources fields
  ofFields (addOrchestrator environment fields)

end DriverKit.Options
