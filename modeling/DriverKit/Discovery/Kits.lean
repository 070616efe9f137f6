import DriverKit.Discovery.Candidate
import DriverKit.Disk.Basic
import DriverKit.Installation
import DriverKit.KitLayout
import DriverKit.KitVersion.Reading

/-!
# Discovery

The kits that are installed at the candidate roots. A root is looked at once, under whatever path
it is named first. Its version directory is read if it is there, and every directory in it whose
name is a version is an installation; the newest installations come first.
-/

namespace DriverKit

/-- What discovery found, and the directories that it read. The directories are known even if
discovery failed. -/
structure Discovery where
  found : Traced (List Installation)
  consulted : List Path

namespace Discovery

def readName (candidate : Candidate) (name : String) : Traced (Option Installation) :=
  match KitVersion.read name with
  | .ok version => do
      let installation : Installation := ⟨candidate.path, version, candidate.method⟩
      Traced.say .info .locator ("Found " ++ installation.text)
      return some installation
  | .error (.invalidVersion _) => do
      Traced.say .warning .locator
        ("Skipping unrecognized kit directory: "
          ++ ((KitLayout.versionRoot candidate.path).child name).text)
      return none
  | .error failure => Traced.fail failure

def readNames (candidate : Candidate) : List String → Traced (List Installation)
  | [] => return []
  | name :: rest => do
      if KitLayout.isVersionCandidate name then
        let installation ← readName candidate name
        let others ← readNames candidate rest
        return installation.toList ++ others
      else readNames candidate rest

def probe (disk : Disk) (candidate : Candidate) : Discovery :=
  let versionRoot := KitLayout.versionRoot candidate.path
  match disk.isDirectory versionRoot with
  | .error fault => ⟨.fail (.host fault), []⟩
  | .ok false =>
      { found := do
          Traced.say .debug .locator
            ("No kit at " ++ candidate.path.text ++ " (" ++ versionRoot.text ++ " missing)")
          return []
        consulted := [] }
  | .ok true =>
      { found :=
          match disk.subdirectories versionRoot with
          | .error fault => Traced.fail (.probe (some versionRoot) (.fault fault.message))
          | .ok names => readNames candidate names
        consulted := [versionRoot] }

/-- Looks at candidates one after the other, up to one that cannot be read. -/
def probeAll (disk : Disk) : List Candidate → Discovery
  | [] => ⟨return [], []⟩
  | candidate :: rest =>
      let first := probe disk candidate
      match first.found.outcome with
      | .error _ => first
      | .ok _ =>
          let others := probeAll disk rest
          { found := do return (← first.found) ++ (← others.found)
            consulted := first.consulted ++ others.consulted }

/-- The candidates without those whose root has the standard form of an earlier one. -/
def distinctRoots (disk : Disk) (candidates : List Candidate) : List Candidate :=
  distinctBy
    (fun left right =>
      left.path.standard disk.workingDirectory == right.path.standard disk.workingDirectory)
    candidates

/-- Puts the newest installation first; none at all is a failure. -/
def ranked (candidates : List Candidate) (installations : List Installation) :
    Traced (List Installation) :=
  match KitVersion.newestFirst Installation.version installations with
  | [] => Traced.fail (.kitNotFound (candidates.map Candidate.path))
  | newest :: others => do
      Traced.say .info .locator
        ("Discovered " ++ Nat.repr installations.length ++ " kit version(s), newest "
          ++ newest.version.text)
      return newest :: others

def discover (disk : Disk) (environment : Environment) (store : Store) (standard : List Path) :
    Discovery :=
  let begun : Traced (List Candidate) := do
    Traced.say .info .locator "Starting kit discovery"
    distinctRoots disk <$> Candidate.all environment store standard
  let probed := probeAll disk (begun.outcome.toOption.getD [])
  { found := do
      let candidates ← begun
      ranked candidates (← probed.found)
    consulted := probed.consulted }

end Discovery

end DriverKit
