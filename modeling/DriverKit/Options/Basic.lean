import DriverKit.Driver.Reading
import DriverKit.KitLayout
import DriverKit.KitVersion.Reading
import DriverKit.Log
import DriverKit.Machine

/-!
# Build options

What the author of a driver asks for, before anything is checked: a class, framework versions, a
target architecture, a pinned kit version and a layout. Checking turns them into a driver
configuration, an architecture, a version and a layout, or says what is wrong with them.
-/

namespace DriverKit

/-- The options of a build. The absent value stands for an option that is not set. -/
structure Options where
  driverClass : Datum
  kmdfVersion : Datum
  umdfVersion : Datum
  targetArch : Datum
  pinnedVersion : Datum
  layout : Datum
deriving Repr

namespace Options

def usual : Options where
  driverClass := .text DriverClass.kmdf.name
  kmdfVersion := .null
  umdfVersion := .null
  targetArch := .null
  pinnedVersion := .null
  layout := .map []

def supplied (options : Options) : Supplied :=
  [("driver_class", options.driverClass), ("kmdf_version", options.kmdfVersion),
   ("umdf_version", options.umdfVersion), ("target_arch", options.targetArch),
   ("pinned_kit_version", options.pinnedVersion)].filter fun entry => !entry.2.isNull

/-- Adds the options that are set to a refusal; other failures stay as they are. -/
def explain {α : Type} (options : Options) : Except Failure α → Except Failure α
  | .error (.invalidConfig refusal given) =>
      .error (.invalidConfig (.passedOn (refusal.message ++ suppliedRemark given))
        options.supplied)
  | .error (.invalidOptions refusal given) =>
      .error (.invalidConfig (.passedOn (refusal.message ++ suppliedRemark given))
        options.supplied)
  | outcome => outcome

def refuseVersion (options : Options) (name : String) (driverClass : DriverClass)
    (version : Datum) : Except Failure Unit :=
  if version.isNull then .ok ()
  else .error (.invalidConfig (.optionOfOther name driverClass) options.supplied)

/-- The framework version that is asked for, or else the usual one of the class. -/
def frameworkVersion (driverClass : DriverClass) (version : Datum) :
    Except Failure FrameworkVersion :=
  if version.isNull then .ok ⟨driverClass.frameworkMajor, DriverConfig.defaultMinor⟩
  else FrameworkVersion.ofDatum version

def readClass (options : Options) : Except Failure DriverClass := do
  DriverClass.read (← options.driverClass.write)

/-- The driver configuration that the options ask for. The version of another class must not be
set. -/
def driverConfig (options : Options) : Except Failure DriverConfig := do
  match ← options.explain options.readClass with
  | .wdm =>
      options.refuseVersion "kmdf_version" .wdm options.kmdfVersion
      options.refuseVersion "umdf_version" .wdm options.umdfVersion
      return .wdm
  | .kmdf =>
      options.refuseVersion "umdf_version" .kmdf options.umdfVersion
      options.explain do
        DriverConfig.ofParts .kmdf (some (← frameworkVersion .kmdf options.kmdfVersion))
  | .umdf =>
      options.refuseVersion "kmdf_version" .umdf options.kmdfVersion
      options.explain do
        DriverConfig.ofParts .umdf (some (← frameworkVersion .umdf options.umdfVersion))

def target (options : Options) (machine : Machine) : Traced Arch := do
  if options.targetArch.isPresent then
    Traced.silent do Arch.read (← options.targetArch.write)
  else
    Traced.say .debug .options
      ("No target architecture set, using host architecture " ++ machine.arch)
    Traced.silent (Arch.read machine.arch)

def refuseMalformed {α : Type} : Except Failure α → Except Failure α
  | .error (.invalidVersion text) =>
      .error (.invalidOptions (.passedOn (Failure.message (.invalidVersion text))) [])
  | outcome => outcome

def pin (options : Options) : Except Failure (Option KitVersion) :=
  if options.pinnedVersion.isPresent then
    some <$> refuseMalformed (KitVersion.ofDatum options.pinnedVersion)
  else .ok none

def kitLayout (options : Options) (parts : Template.Parts) : Except Failure KitLayout :=
  KitLayout.ofDatum parts options.layout

end Options

end DriverKit
