import DriverKit.Datum.Basic

/-!
# Unfolding webs

A collection that does not lead to itself is a value without a web: its parts are put where their
places stand. The values are found from the parts to the collections that hold them, so each is
found once however often it is used.
-/

namespace DriverKit

/-- Values of the places of a web, as far as they have been found. -/
abbrev Unfolded := Array (Option Datum)

/-- The value of a part, if it has been found. -/
def Link.datum? (found : Unfolded) : Link → Option Datum
  | .scalar value => some (.scalar value)
  | .cell place => (found[place]?).join

def Cell.datum? (found : Unfolded) : Cell → Option Datum
  | .list items => (items.mapM (Link.datum? found)).map .list
  | .map entries =>
      (entries.mapM fun (entry : Scalar × Link) =>
        (entry.2.datum? found).map fun value => (entry.1, value)).map .map
  | .pair first second => do return .pair (← first.datum? found) (← second.datum? found)
  | .set members => some (.set members)

namespace Web

def unfoldAt (web : Web) (found : Unfolded) (place : Nat) : Unfolded :=
  match (found[place]?).join, web[place]? with
  | none, some cell => found.setIfInBounds place (cell.datum? found)
  | _, _ => found

/-- Goes through all places once, from the last to the first. -/
def unfoldOnce (web : Web) (found : Unfolded) : Unfolded :=
  (List.range web.size).foldr (fun place found => web.unfoldAt found place) found

/-- The value of a place, once as many rounds as the fuel says have been gone through, or as many as
find something. -/
def unfoldWithin (web : Web) (place : Nat) : Nat → Unfolded → Option Datum
  | 0, found => (found[place]?).join
  | rounds + 1, found =>
      let next := web.unfoldOnce found
      let count (values : Unfolded) : Nat := values.countP Option.isSome
      match (next[place]?).join with
      | some value => some value
      | none => if count next == count found then none else unfoldWithin web place rounds next

/-- The value of a place without a web, if what is there does not lead to itself. -/
def tree? (web : Web) (place : Nat) : Option Datum :=
  web.unfoldWithin place web.size (Array.replicate web.size none)

def datum (web : Web) (place : Nat) : Datum :=
  (web.tree? place).getD (.within web place)

end Web

end DriverKit
