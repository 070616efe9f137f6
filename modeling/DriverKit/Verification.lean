import DriverKit.BuildConfig
import DriverKit.Disk.Basic
import DriverKit.Log

/-!
# Verification

The directories of a configuration must be there. Verification changes nothing: it passes a
configuration on, or says which of its directories are missing.
-/

namespace DriverKit

/-- Those of some paths that lead to no directory, as far as the host can be asked for them. -/
def Disk.missing (disk : Disk) : List Path → Except HostFault (List Path)
  | [] => .ok []
  | path :: rest => do
      let isThere ← disk.isDirectory path
      let others ← disk.missing rest
      return if isThere then others else path :: others

def BuildConfig.missingDirectories (config : BuildConfig) (disk : Disk) :
    Except HostFault (List Path) :=
  disk.missing (config.includeDirs ++ config.libDirs)

def BuildConfig.verify (config : BuildConfig) (disk : Disk) : Except Failure BuildConfig :=
  match config.missingDirectories disk with
  | .error fault => .error (.host fault)
  | .ok [] => .ok config
  | .ok (first :: rest) =>
      .error (.probe (some first) (.incomplete config.key.version (first :: rest)))

end DriverKit
