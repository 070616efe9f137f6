/-!
# Driver classes

The three models a driver can be built for: two frameworks, one in kernel mode and one in user
mode, and the bare kernel model.
-/

namespace DriverKit

/-- The model a driver is built for. -/
inductive DriverClass where
  | kmdf
  | umdf
  | wdm
deriving DecidableEq, Repr

namespace DriverClass

def all : List DriverClass := [.kmdf, .umdf, .wdm]

def name : DriverClass → String
  | .kmdf => "KMDF"
  | .umdf => "UMDF"
  | .wdm => "WDM"

def smallName : DriverClass → String
  | .kmdf => "kmdf"
  | .umdf => "umdf"
  | .wdm => "wdm"

def ofName? : String → Option DriverClass
  | "KMDF" => some .kmdf
  | "UMDF" => some .umdf
  | "WDM" => some .wdm
  | _ => none

/-- Drivers of every class but the user mode framework run in kernel mode. -/
def isKernelMode : DriverClass → Bool
  | .umdf => false
  | _ => true

/-- Every class but the bare kernel model has a framework. -/
def usesFramework : DriverClass → Bool
  | .wdm => false
  | _ => true

instance : ToString DriverClass := ⟨name⟩

end DriverClass

end DriverKit
