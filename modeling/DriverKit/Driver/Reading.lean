import DriverKit.Failure
import DriverKit.Text.Case
import DriverKit.Text.Pieces

/-!
# Reading driver configurations

Classes, architectures and framework versions read from texts and other values, and the rule that
decides which class goes with which framework version.
-/

namespace DriverKit

def DriverClass.read (text : String) : Except Failure DriverClass :=
  match DriverClass.ofName? (Text.upperPlain (Text.trim text)) with
  | some driverClass => .ok driverClass
  | none => .error (.invalidConfig (.unknownClass text) [])

def Arch.read (text : String) : Except Failure Arch :=
  match Arch.ofName? (Text.lower (Text.trim text)) with
  | some arch => .ok arch
  | none => .error (.invalidConfig (.unsupportedArch text) [])

namespace FrameworkVersion

/-- Reads one number of a framework version. Blanks around it do not count, unless they are
information separators. -/
def readPart (part : List Char) : Except Failure Int :=
  match Text.readInteger? 10 part with
  | some number => .ok number
  | none => .error (.misuse .malformedNumeral)

/-- Reads a framework version from its parts; `shown` is what is said to be malformed. -/
def ofParts (shown : String) : List (List Char) → Except Failure FrameworkVersion
  | [major, minor] => do
      if Text.isNumeral (Text.trimmed major) && Text.isNumeral (Text.trimmed minor) then
        return ⟨← readPart major, ← readPart minor⟩
      else .error (.invalidConfig (.malformedFramework shown) [])
  | _ => .error (.invalidConfig (.malformedFramework shown) [])

def read (text : String) : Except Failure FrameworkVersion :=
  ofParts text (Text.pieces '.' (Text.trimmed text.toList))

/-- The framework version that a value names: a text, or a list or pair of two numbers. -/
def ofDatum (value : Datum) : Except Failure FrameworkVersion := do
  match value.opened with
  | .list [major, minor] | .pair major minor =>
      let parts := [(← major.write).toList, (← minor.write).toList]
      ofParts (← value.write) parts
  | _ => read (← value.write)

end FrameworkVersion

namespace DriverConfig

/-- What is said to have been given, when a class and a framework version do not go together. -/
def suppliedParts (driverClass : DriverClass) (version : Option FrameworkVersion) : Supplied :=
  [("driver_class", .text driverClass.name),
   ("framework_version", (version.map fun number => Datum.text number.text).getD .null)]

/-- The configuration of a class and a framework version. A framework needs a version of its own
major number; the bare kernel model takes none. -/
def ofParts (driverClass : DriverClass) (version : Option FrameworkVersion) :
    Except Failure DriverConfig :=
  let refuse (refusal : Refusal) : Except Failure DriverConfig :=
    .error (.invalidConfig refusal (suppliedParts driverClass version))
  match driverClass, version with
  | .wdm, none => .ok .wdm
  | .wdm, some _ => refuse .frameworkUnused
  | framework, none => refuse (.frameworkMissing framework)
  | .kmdf, some number =>
      if number.major = DriverClass.kmdf.frameworkMajor then .ok (.kmdf number.minor)
      else refuse (.frameworkForeign number .kmdf)
  | .umdf, some number =>
      if number.major = DriverClass.umdf.frameworkMajor then .ok (.umdf number.minor)
      else refuse (.frameworkForeign number .umdf)

/-- The configuration of a class and a framework version given as values; the absent value stands
for no version. -/
def ofData (driverClass version : Datum) : Except Failure DriverConfig := do
  let driverClass ← DriverClass.read (← driverClass.write)
  if version.isNull then ofParts driverClass none
  else ofParts driverClass (some (← FrameworkVersion.ofDatum version))

/-- The configuration of a framework by its numbers, with the usual ones for those left out. -/
def ofNumbers (framework : DriverClass) (major minor : Option Int) :
    Except Failure DriverConfig :=
  ofParts framework (some ⟨major.getD framework.frameworkMajor, minor.getD defaultMinor⟩)

def ofKmdf : Option Int → Option Int → Except Failure DriverConfig := ofNumbers .kmdf

def ofUmdf : Option Int → Option Int → Except Failure DriverConfig := ofNumbers .umdf

end DriverConfig

end DriverKit
