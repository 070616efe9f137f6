import DriverKit.Environment
import DriverKit.Store

/-!
# Candidate roots

The roots at which kits may be installed. A root from the environment is the only candidate; else
the root from the configuration store is; and only if there is none either, the standard locations
are candidates.
-/

namespace DriverKit

/-- A root at which kits may be installed, and how it was found. -/
structure Candidate where
  path : Path
  method : String
deriving DecidableEq, Repr

namespace Candidate

def rootVariable : String := "WDKContentRoot"

def rootKey : String := "SOFTWARE\\Microsoft\\Windows Kits\\Installed Roots"

def rootName : String := "KitsRoot10"

def standardLocations : List Path :=
  [Path.ofText "C:/Program Files (x86)/Windows Kits/10",
   Path.ofText "C:/Program Files/Windows Kits/10"]

/-- The root that the environment gives; a blank one does not count. -/
def override? (environment : Environment) : Option String :=
  ((environment.value? rootVariable).map Text.trim).filter (· != "")

def ofValue (value : Datum) : Except Failure Candidate :=
  match value with
  | .text root => .ok ⟨Path.ofText root, "registry"⟩
  | _ => .error (.misuse .notPath)

/-- The root that the store gives, if it has one. A store that refuses to be read is as good as
none. -/
def ofStore (store : Store) : Traced (Option Candidate) :=
  if !store.isAvailable then do
    Traced.say .debug .locator "Configuration store not available on this host"
    return none
  else
    let value := store.read rootKey rootName
    match value.outcome with
    | .error (.host fault) => do
        Traced.say .warning .locator
          ("Configuration store query failed, using fallbacks: " ++ fault.message)
        return none
    | _ => do
        match (← value).bind Datum.present? with
        | none =>
            Traced.say .debug .locator ("No " ++ rootName ++ " value in configuration store")
            return none
        | some present => return some (← ofValue present)

def all (environment : Environment) (store : Store) (standard : List Path) :
    Traced (List Candidate) :=
  match override? environment with
  | some root => do
      Traced.say .debug .locator (rootVariable ++ " override: " ++ root)
      return [⟨Path.ofText root, "environment"⟩]
  | none => do
      match ← ofStore store with
      | some candidate => return [candidate]
      | none =>
          Traced.say .debug .locator "Falling back to standard kit locations"
          return standard.map fun path => ⟨path, "standard_location"⟩

end Candidate

end DriverKit
