import DriverKit.Discovery.Kits

/-!
# Locators

A locator searches for kits as often as it is asked to. Between two searches it keeps the standard
locations, which no search changes, and the directories that the last search read. Everything else
that a search depends on is looked at anew.
-/

namespace DriverKit

structure Surroundings where
  disk : Disk
  environment : Environment
  store : Store

/-- A searcher for kits. -/
structure Locator where
  /-- Where kits are usually installed. -/
  standard : List Path
  /-- The directories that the last search read. -/
  consulted : List Path
deriving DecidableEq, Repr

namespace Locator

def ofStandard (standard : List Path) : Locator := ⟨standard, []⟩

def candidates (locator : Locator) (surroundings : Surroundings) : Traced (List Candidate) :=
  Candidate.all surroundings.environment surroundings.store locator.standard

def discover (locator : Locator) (surroundings : Surroundings) :
    Traced (List Installation) × Locator :=
  let discovery :=
    Discovery.discover surroundings.disk surroundings.environment surroundings.store
      locator.standard
  (discovery.found, { locator with consulted := discovery.consulted })

/-- Searches for kits in one surrounding after the other, with what each search has found. -/
def discoverEach (locator : Locator) :
    List Surroundings → List (Traced (List Installation)) × Locator
  | [] => ([], locator)
  | surroundings :: rest =>
      let (found, locator) := locator.discover surroundings
      let (others, locator) := locator.discoverEach rest
      (found :: others, locator)

end Locator

end DriverKit
