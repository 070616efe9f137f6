import DriverKit.Cache.Document
import DriverKit.Disk.Replacement
import DriverKit.Yaml.Reading
import DriverKit.Yaml.Writing

/-!
# Cache files

The configuration of the last build step, kept in a file of the output directory so that later
steps need not look at the host again. The file is replaced as a whole, so a reader finds either
the last configuration or the one before it.
-/

namespace DriverKit.Cache

def usualName : String := "wdk-config.yaml"

def file (outDir : Path) (name : String) : Path := outDir.child name

def text (config : BuildConfig) : String := Yaml.write (encode config)

/-! ## Saving -/

/-- Keeps a configuration. A fault of the host is a failure of the cache. -/
def save (disk : Disk) (file : Path) (config : BuildConfig) (faults : Disk.ReplacementFaults) :
    Traced Path × Disk :=
  let (replaced, disk) := disk.replace file (.ok (text config).toUTF8) faults
  let saved :=
    match replaced.outcome with
    | .error (.host fault) => ⟨.error (.cache file (.fault fault.message)), replaced.log⟩
    | .error failure => ⟨.error failure, replaced.log⟩
    | .ok () => do
        replaced
        Traced.say .info .cache ("Configuration cache saved: " ++ file.text)
        return file
  (saved, disk)

/-! ## Loading -/

/-- The words that stand for a use that a value of a wrong shape does not allow. -/
def shapeWords : String := "<TypeError>"

/-- The words that stand for a value that makes no sense. -/
def valueWords : String := "<ValueError>"

/-- What is said about a document that does not describe a configuration, for the failures that
are taken for that. -/
def malformedText? : Failure → Option String
  | .invalidConfig refusal supplied => some (Failure.invalidConfig refusal supplied).message
  | .invalidVersion text => some (Failure.invalidVersion text).message
  | .misuse cause =>
      match cause.family with
      | .key => cause.message?
      | .shape => some shapeWords
      | .value => some (cause.message?.getD valueWords)
      | _ => none
  | _ => none

def parse (loader : Yaml.Loader) (file : Path) (bytes : ByteArray) : Except Failure Datum :=
  match loader.read bytes with
  | .ok value => .ok value
  | .error .malformed => .error (.cache file .notYaml)
  | .error (.misuse cause) => .error (.misuse cause)

def ofBytes (loader : Yaml.Loader) (file : Path) (bytes : ByteArray) :
    Except Failure BuildConfig := do
  let document ← parse loader file bytes
  match document.opened with
  | .map _ =>
      match decode document with
      | .ok config => return config
      | .error failure =>
          match malformedText? failure with
          | some text => .error (.cache file (.malformed text))
          | none => .error failure
  | _ => .error (.cache file .notMapping)

/-- The configuration that is kept in a file, if there is such a file. -/
def load (loader : Yaml.Loader) (disk : Disk) (file : Path) : Traced (Option BuildConfig) := do
  if !(← disk.contains file) then
    Traced.say .debug .cache ("Configuration cache not found: " ++ file.text)
    return none
  else
    match disk.read file with
    | .error fault => Traced.fail (.cache file (.fault fault.message))
    | .ok bytes =>
        let config ← ofBytes loader file bytes
        Traced.say .debug .cache ("Loaded configuration cache: " ++ file.text)
        return some config

end DriverKit.Cache
