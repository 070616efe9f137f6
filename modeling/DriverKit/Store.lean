import DriverKit.Log
import DriverKit.Machine

/-!
# Configuration stores

Where a host keeps the roots of its installed kits. A store may not be there at all, and one that
is there may refuse to be read.
-/

namespace DriverKit

/-- A store of values, each found by a key and a name. -/
inductive Store where
  /-- The host has no store. -/
  | absent
  /-- A fixed table; `refusal` is what it says if it refuses to be read. -/
  | table (values : List ((String × String) × Datum)) (refusal : Option String)
  /-- The registry of the machine: named values below keys. -/
  | registry (keys : List (String × List (String × Datum))) (refusal : Option String)
deriving Repr

namespace Store

def isAvailable : Store → Bool
  | .absent => false
  | _ => true

/-- A value of the registry as it is spoken of. -/
def registryName (key name : String) : String := "HKLM\\" ++ key ++ "\\" ++ name

def read (store : Store) (key name : String) : Traced (Option Datum) :=
  match store with
  | .absent => return none
  | .table _ (some text) | .registry _ (some text) => Traced.fail (.host (.denied text))
  | .table values none => return values.lookup (key, name)
  | .registry keys none =>
      match (keys.lookup key).bind (·.lookup name) with
      | none => do
          Traced.say .debug .registry ("Registry value not found: " ++ registryName key name)
          return none
      | some value => do
          let text ← value.write
          Traced.say .debug .registry
            ("Registry value " ++ registryName key name ++ " = " ++ text)
          return some (.text text)

/-- The store that a machine has: its registry, if it has one. -/
def ofMachine (machine : Machine) (registry : Store) : Store :=
  if machine.isWindows then registry else .absent

end Store

end DriverKit
