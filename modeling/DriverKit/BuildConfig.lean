import DriverKit.Arch
import DriverKit.Driver.Config
import DriverKit.KitVersion.Basic
import DriverKit.Path

/-!
# Build configurations

What a driver is built with: the directories of headers and libraries, the definitions for the
preprocessor, the libraries to link, and the paths whose change makes a new configuration
necessary.
-/

namespace DriverKit

/-- What a build configuration is made for. -/
structure ConfigKey where
  version : KitVersion
  driver : DriverConfig
  arch : Arch
deriving Repr

namespace ConfigKey

def text (key : ConfigKey) : String :=
  "WDK " ++ key.version.text ++ " / " ++ key.driver.text ++ " / " ++ key.arch.name

def same (left right : ConfigKey) : Bool :=
  left.version.same right.version && left.driver == right.driver && left.arch == right.arch

end ConfigKey

/-- A definition for the preprocessor: a name, and a value if it has one. -/
abbrev Define := String × Option String

namespace Define

/-- Gives a name a value; a name that is there keeps its place. -/
def put (name : String) (value : Option String) : List Define → List Define
  | [] => [(name, value)]
  | entry :: rest =>
      if entry.1 == name then (name, value) :: rest else entry :: put name value rest

/-- The definitions with one entry for each name, the value of the last. -/
def latest (defines : List Define) : List Define :=
  defines.foldl (fun kept entry => put entry.1 entry.2 kept) []

end Define

/-- The configuration of one build. -/
structure BuildConfig where
  key : ConfigKey
  kitRoot : Path
  includeDirs : List Path
  libDirs : List Path
  defines : List Define
  linkLibs : List String
  rerunPaths : List Path
deriving Repr

namespace BuildConfig

def same (left right : BuildConfig) : Bool :=
  left.key.same right.key && left.kitRoot == right.kitRoot
    && left.includeDirs == right.includeDirs && left.libDirs == right.libDirs
    && left.defines == right.defines && left.linkLibs == right.linkLibs
    && left.rerunPaths == right.rerunPaths

end BuildConfig

end DriverKit
