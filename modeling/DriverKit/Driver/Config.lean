import DriverKit.Driver.Class
import DriverKit.Text.Numeral

/-!
# Driver configurations

What a driver is built for: a class, and for the two frameworks the version of the framework. The
major version is fixed by the class, so a configuration only holds the minor one.
-/

namespace DriverKit

structure FrameworkVersion where
  major : Int
  minor : Int
deriving DecidableEq, Repr

namespace FrameworkVersion

def text (version : FrameworkVersion) : String :=
  Text.writeInteger version.major ++ "." ++ Text.writeInteger version.minor

instance : ToString FrameworkVersion := ⟨text⟩

end FrameworkVersion

/-- A class of drivers with the framework version it needs. -/
inductive DriverConfig where
  | kmdf (minor : Int)
  | umdf (minor : Int)
  | wdm
deriving DecidableEq, Repr

def DriverConfig.driverClass : DriverConfig → DriverClass
  | .kmdf _ => .kmdf
  | .umdf _ => .umdf
  | .wdm => .wdm

def DriverClass.frameworkMajor : DriverClass → Int
  | .umdf => 2
  | _ => 1

namespace DriverConfig

def framework? : DriverConfig → Option FrameworkVersion
  | .kmdf minor => some ⟨DriverClass.kmdf.frameworkMajor, minor⟩
  | .umdf minor => some ⟨DriverClass.umdf.frameworkMajor, minor⟩
  | .wdm => none

def text (config : DriverConfig) : String :=
  match config.framework? with
  | some version => config.driverClass.name ++ " " ++ version.text
  | none => config.driverClass.name

instance : ToString DriverConfig := ⟨text⟩

/-- The minor framework version that is used if none is asked for. -/
def defaultMinor : Int := 33

end DriverConfig

end DriverKit
