import DriverKit.BuildConfig
import DriverKit.Installation
import DriverKit.KitLayout
import DriverKit.Log

/-!
# Resolution

The build configuration for a driver, made from the installed kits: an installation is selected,
the tiers of the layout become directories in it, and the class and the architecture decide the
definitions and libraries. Nothing on disk is looked at.
-/

namespace DriverKit.Resolution

def archDefines : Arch → List Define
  | .x86 => [("_X86_", none), ("i386", none), ("STD_CALL", none)]
  | .x64 => [("_WIN64", none), ("_AMD64_", none), ("AMD64", none)]
  | .arm => [("_ARM_", none), ("ARM", none), ("STD_CALL", none)]
  | .arm64 =>
      [("_WIN64", none), ("_ARM64_", none), ("ARM64", none), ("_USE_DECLSPECS_FOR_SAL", some "1"),
       ("STD_CALL", none)]

def modeDefines (driverClass : DriverClass) : List Define :=
  if driverClass.isKernelMode then [("_KERNEL_MODE", none)] else []

def frameworkDefines (config : DriverConfig) : List Define :=
  match config.framework? with
  | none => []
  | some version =>
      [(config.driverClass.name ++ "_VERSION_MAJOR", some (Text.writeInteger version.major)),
       (config.driverClass.name ++ "_VERSION_MINOR", some (Text.writeInteger version.minor))]

def defines (config : DriverConfig) (arch : Arch) : List Define :=
  archDefines arch ++ modeDefines config.driverClass ++ frameworkDefines config

def kernelLibs : List String := ["BufferOverflowFastFailK", "ntoskrnl", "hal", "wmilib"]

def linkLibs : DriverClass → List String
  | .wdm => kernelLibs
  | .kmdf => kernelLibs ++ ["WdfLdr", "WdfDriverEntry"]
  | .umdf => ["OneCoreUAP", "WdfDriverStubUm"]

def configure (layout : KitLayout) (installation : Installation) (driver : DriverConfig)
    (arch : Arch) (consulted : List Path) : Except Failure BuildConfig := do
  let root := installation.root
  let version := installation.version
  let includeDirs := distinct (← layout.includeDirs root version driver)
  let libDirs := distinct (← layout.libDirs root version driver arch)
  return {
    key := ⟨version, driver, arch⟩
    kitRoot := root
    includeDirs := includeDirs
    libDirs := libDirs
    defines := defines driver arch
    linkLibs := linkLibs driver.driverClass
    rerunPaths :=
      distinct (KitLayout.versionRoot root :: includeDirs ++ libDirs ++ consulted) }

/-- The build configuration for a driver. The directories consulted while the kits were found
become paths to watch, after those of the configuration itself. -/
def resolve (layout : KitLayout) (installations : List Installation) (driver : DriverConfig)
    (arch : Arch) (pin : Option KitVersion) (consulted : List Path) : Traced BuildConfig := do
  let installation ← Installation.select installations pin
  Traced.say .info .resolver
    ("Selected " ++ installation.text ++ " (build " ++ Nat.repr installation.version.build ++ ")")
  let config ← configure layout installation driver arch consulted
  Traced.say .debug .resolver
    ("Resolved " ++ config.key.text ++ ": " ++ Nat.repr config.includeDirs.length
      ++ " include dirs, " ++ Nat.repr config.libDirs.length ++ " lib dirs, "
      ++ Nat.repr config.defines.length ++ " defines")
  return config

/-- The build configuration for a driver and an architecture that are given as values. A value
that is no driver configuration is refused before the architecture is read. -/
def request (layout : KitLayout) (installations : List Installation)
    (driver : Datum ⊕ DriverConfig) (arch : Datum) (pin : Option KitVersion)
    (consulted : List Path) : Traced BuildConfig := do
  match driver with
  | .inl value => Traced.fail (.invalidConfig (.notDriverConfig value.shown) [])
  | .inr config =>
      let arch ← Arch.read (← arch.write)
      resolve layout installations config arch pin consulted

end DriverKit.Resolution
