import DriverKit.BuildConfig
import DriverKit.Distinct

/-!
# Directives

What a build step tells the build orchestrator: where libraries are, which to link, which paths to
watch, and which flags hold for conditional compilation. Every directive is one line.
-/

namespace DriverKit

/-- One thing that the build orchestrator is told. -/
inductive Directive where
  | searchPath (path : Path)
  | library (name : String)
  | rerunIfChanged (path : Path)
  | cfg (name : String) (value : Option String)
deriving DecidableEq, Repr

namespace Directive

def lineStart : String := "cargo:"

def line : Directive → String
  | .searchPath path => lineStart ++ "rustc-link-search=native=" ++ path.text
  | .library name => lineStart ++ "rustc-link-lib=static=" ++ name
  | .rerunIfChanged path => lineStart ++ "rerun-if-changed=" ++ path.text
  | .cfg name none => lineStart ++ "rustc-cfg=" ++ name
  | .cfg name (some value) => lineStart ++ "rustc-cfg=" ++ name ++ "=\"" ++ value ++ "\""

def written (directives : List Directive) : String :=
  String.join (directives.map fun directive => directive.line ++ "\n")

def ofDriver (config : DriverConfig) : List Directive :=
  let driverType := Directive.cfg "driver_type" (some config.driverClass.name)
  match config.framework? with
  | none => [driverType]
  | some version =>
      [driverType, .cfg (config.driverClass.smallName ++ "_version") (some version.text)]

/-- The directives of a configuration: search paths, libraries, paths to watch, flags; nothing is
said twice. -/
def emit (config : BuildConfig) : List Directive :=
  (distinct config.libDirs).map .searchPath
    ++ (distinct config.linkLibs).map .library
    ++ (distinct config.rerunPaths).map .rerunIfChanged
    ++ ofDriver config.key.driver

end Directive

end DriverKit
