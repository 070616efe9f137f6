import DriverKit.Text.Case

/-!
# The build machine

What is known of the machine that runs the build: its operating system, its processor and its
release. The machine is asked once; later questions get the first answer until it is forgotten.
-/

namespace DriverKit

/-- What a machine says of itself. -/
structure Machine.Report where
  system : String
  processor : String
  version : String
  release : String
deriving DecidableEq, Repr

/-- A machine, under the names that kits use. -/
structure Machine where
  os : String
  arch : String
  osVersion : String
deriving DecidableEq, Repr

namespace Machine

def osName (system : String) : String :=
  let name := Text.lower system
  if name == "darwin" then "macos" else name

def archName (processor : String) : String :=
  let name := Text.lower processor
  if ["x86_64", "amd64", "x64"].contains name then "x64"
  else if ["aarch64", "arm64"].contains name then "arm64"
  else if ["i386", "i686", "x86"].contains name then "x86"
  else if "arm".toList.isPrefixOf name.toList then "arm"
  else name

def ofReport (report : Report) : Machine where
  os := osName report.system
  arch := archName report.processor
  osVersion := if report.version.isEmpty then report.release else report.version

def isWindows (machine : Machine) : Bool := machine.os == "windows"

/-- The operating system and the processor in one word. -/
def platform (machine : Machine) : String := machine.os ++ "-" ++ machine.arch

def text (machine : Machine) : String := machine.platform ++ " v" ++ machine.osVersion

/-! ## Asking once -/

/-- What has been found out about the machine so far. -/
abbrev Memory := Option Machine

/-- The machine as remembered, or as its report describes it now, and what is remembered then. -/
def ask (memory : Memory) (report : Report) : Machine × Memory :=
  match memory with
  | some machine => (machine, some machine)
  | none => (ofReport report, some (ofReport report))

end Machine

end DriverKit
