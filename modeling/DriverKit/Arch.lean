/-!
# Target architectures

The processors a driver can be built for, and the names under which they are known: the name of
the library folder in a kit, and the target of the header reader.
-/

namespace DriverKit

/-- The architecture a driver is built for. -/
inductive Arch where
  | x86
  | x64
  | arm
  | arm64
deriving DecidableEq, Repr

namespace Arch

def all : List Arch := [.x86, .x64, .arm, .arm64]

def name : Arch → String
  | .x86 => "x86"
  | .x64 => "x64"
  | .arm => "arm"
  | .arm64 => "arm64"

/-- The target under which headers are read for an architecture. -/
def triple : Arch → String
  | .x86 => "i686-pc-windows-msvc"
  | .x64 => "x86_64-pc-windows-msvc"
  | .arm => "thumbv7a-pc-windows-msvc"
  | .arm64 => "aarch64-pc-windows-msvc"

/-- The architecture of any of its names, in small letters. -/
def ofName? : String → Option Arch
  | "x86" | "i386" | "i586" | "i686" => some .x86
  | "x64" | "x86_64" | "amd64" => some .x64
  | "arm" | "thumbv7a" => some .arm
  | "arm64" | "aarch64" => some .arm64
  | _ => none

instance : ToString Arch := ⟨name⟩

end Arch

end DriverKit
