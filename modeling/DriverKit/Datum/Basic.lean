import DriverKit.Calendar
import DriverKit.Decimal.Shortest

/-!
# Data

The values that an options file or a cache document can hold: scalars, and lists, maps, pairs and
sets built from them. Only scalars are keys of maps and members of sets.

A collection can hold itself, at once or further down. Such collections lie in a web, in which each
has a place, and a value is then the place of a collection in its web. Opening the value gives the
collection with its parts, which are values again.

Numbers and truth values are compared by value across their kinds, so that `1`, `1.0` and `true`
are one key.
-/

namespace DriverKit

open Decimal

/-! ## Scalars -/

/-- A value without parts. -/
inductive Scalar where
  | null
  | bool (value : Bool)
  | int (value : Int)
  | real (value : Binary64)
  /-- What is no number. Two of them are the same only if they have the same origin. -/
  | nan (origin : Nat)
  | text (value : String)
  | bytes (value : List UInt8)
  | date (value : Date)
  | timestamp (value : Timestamp)
deriving DecidableEq, Repr

namespace Scalar

def whole? : Scalar → Option Int
  | .bool value => some (if value then 1 else 0)
  | .int value => some value
  | .real value => value.toInt?
  | _ => none

def same (left right : Scalar) : Bool :=
  match left, right with
  | .real value, .real other => value.same other
  | .timestamp moment, .timestamp other => moment.same other
  | _, _ =>
      match left.whole?, right.whole? with
      | some number, some other => number == other
      | none, none => left == right
      | _, _ => false

/-- Tells whether a scalar counts as present: nulls, zeros and empty texts do not. -/
def isPresent : Scalar → Bool
  | .null => false
  | .bool value => value
  | .int value => value != 0
  | .real value => !value.isZero
  | .nan _ => true
  | .text value => value != ""
  | .bytes value => !value.isEmpty
  | .date _ => true
  | .timestamp _ => true

end Scalar

/-! ## Webs -/

/-- A part of a collection in a web: a scalar, or the place of a collection in the same web. -/
inductive Link where
  | scalar (value : Scalar)
  | cell (place : Nat)
deriving DecidableEq, Repr

/-- A collection in a web. -/
inductive Cell where
  | list (items : List Link)
  | map (entries : List (Scalar × Link))
  | pair (first second : Link)
  | set (members : List Scalar)
deriving DecidableEq, Inhabited, Repr

def Cell.links : Cell → List Link
  | .list items => items
  | .map entries => entries.map Prod.snd
  | .pair first second => [first, second]
  | .set _ => []

def Cell.keys : Cell → List Scalar
  | .map entries => entries.map Prod.fst
  | .set members => members
  | .list _ | .pair _ _ => []

/-- Collections that may hold each other and themselves, by their places. -/
abbrev Web := Array Cell

/-! ## Values -/

/-- A value of an options file or a cache document. -/
inductive Datum where
  | scalar (value : Scalar)
  | list (items : List Datum)
  | map (entries : List (Scalar × Datum))
  | pair (first second : Datum)
  | set (members : List Scalar)
  /-- The collection at a place in a web. -/
  | within (web : Web) (place : Nat)
deriving Inhabited, Repr

namespace Datum

@[match_pattern]
abbrev null : Datum := .scalar .null

@[match_pattern]
abbrev text (value : String) : Datum := .scalar (.text value)

@[match_pattern]
abbrev int (value : Int) : Datum := .scalar (.int value)

/-- What a part of a collection in a web stands for. -/
def ofLink (web : Web) : Link → Datum
  | .scalar value => .scalar value
  | .cell place => .within web place

def ofCell (web : Web) : Cell → Datum
  | .list items => .list (items.map (ofLink web))
  | .map entries => .map (entries.map fun (key, value) => (key, ofLink web value))
  | .pair first second => .pair (ofLink web first) (ofLink web second)
  | .set members => .set members

/-- The value itself, or the collection with its parts if the value lies in a web. -/
def opened : Datum → Datum
  | .within web place =>
      match web[place]? with
      | some cell => ofCell web cell
      | none => .null
  | other => other

def isNull : Datum → Bool
  | .scalar .null => true
  | _ => false

/-- Tells whether a value counts as present: nulls, zeros and everything empty do not. -/
def isPresent (value : Datum) : Bool :=
  match value.opened with
  | .scalar value => value.isPresent
  | .list items => !items.isEmpty
  | .map entries => !entries.isEmpty
  | .set members => !members.isEmpty
  | .pair _ _ => true
  | .within _ _ => true

def present? (value : Datum) : Option Datum :=
  if value.isPresent then some value else none

/-! ## Maps -/

def lookup? (entries : List (Scalar × Datum)) (key : Scalar) : Option Datum :=
  (entries.find? fun entry => entry.1.same key).map (·.2)

/-- The value of a key that is a text. -/
def field? (entries : List (Scalar × Datum)) (name : String) : Option Datum :=
  lookup? entries (.text name)

end Datum

/-- Gives a key a value among the entries of a map. A key that is there keeps its place and its
form. -/
def Scalar.put {α : Type} (key : Scalar) (value : α) : List (Scalar × α) → List (Scalar × α)
  | [] => [(key, value)]
  | entry :: rest =>
      if entry.1.same key then (entry.1, value) :: rest else entry :: put key value rest

end DriverKit
