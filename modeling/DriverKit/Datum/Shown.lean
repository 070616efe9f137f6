import DriverKit.Datum.Basic
import DriverKit.Text.Quoted

/-!
# Data as text

The text of a value, and the form in which a value is shown inside messages and other values. The
two differ for texts, dates and moments only: shown, a text is quoted, and a day or moment is
named with its parts. Where a collection stands within itself, dots are shown in its place.
-/

namespace DriverKit

namespace Date

def shown (date : Date) : String :=
  s!"datetime.date({date.year}, {date.month}, {date.day})"

end Date

namespace Timestamp

/-- A distance from universal time as a span of whole days and seconds. -/
def shownOffset (minutes : Int) : String :=
  if minutes == 0 then "datetime.timezone.utc"
  else
    let seconds := minutes * 60
    let days := Int.fdiv seconds 86400
    let rest := Int.fmod seconds 86400
    let parts :=
      (if days == 0 then [] else ["days=" ++ Text.writeInteger days])
        ++ (if rest == 0 then [] else ["seconds=" ++ Text.writeInteger rest])
    "datetime.timezone(datetime.timedelta(" ++ ", ".intercalate parts ++ "))"

def shown (moment : Timestamp) : String :=
  let tail :=
    if moment.micro != 0 then [moment.second, moment.micro]
    else if moment.second != 0 then [moment.second]
    else []
  let numbers :=
    [moment.date.year, moment.date.month, moment.date.day, moment.hour, moment.minute] ++ tail
  let zone := (moment.offset.map fun minutes => ["tzinfo=" ++ shownOffset minutes]).getD []
  "datetime.datetime(" ++ ", ".intercalate (numbers.map Nat.repr ++ zone) ++ ")"

end Timestamp

namespace Scalar

def shown : Scalar → String
  | .null => "None"
  | .bool value => if value then "True" else "False"
  | .int value => Text.writeInteger value
  | .real value => value.text
  | .nan _ => "nan"
  | .text value => Text.quoted value
  | .bytes value => Text.quotedBytes value
  | .date value => value.shown
  | .timestamp value => value.shown

def plain : Scalar → String
  | .text value => value
  | .date value => value.text
  | .timestamp value => value.text
  | other => other.shown

/-- Tells whether a scalar can be written: it is not a whole number with too many digits. -/
def isWritable : Scalar → Bool
  | .int value => Text.isWritable value
  | _ => true

end Scalar

/-! ## Webs -/

namespace Web

def showCell (showPart : Link → String) : Cell → String
  | .list items => "[" ++ ", ".intercalate (items.map showPart) ++ "]"
  | .map entries =>
      "\x7b"
        ++ ", ".intercalate (entries.map fun (key, value) => key.shown ++ ": " ++ showPart value)
        ++ "\x7d"
  | .pair first second => "(" ++ showPart first ++ ", " ++ showPart second ++ ")"
  | .set members =>
      if members.isEmpty then "set()"
      else "\x7b" ++ ", ".intercalate (members.map Scalar.shown) ++ "\x7d"

/-- What is shown for a collection within itself. -/
def showAgain : Cell → String
  | .list _ => "[...]"
  | .map _ | .set _ => "\x7b...\x7d"
  | .pair _ _ => "(...)"

/-- A part as it is shown; `around` are the places of the collections around it. A part that is one
of them is not shown again. Each level adds a place, so the number of places bounds the levels. -/
def showLink (web : Web) : Nat → List Nat → Link → String
  | _, _, .scalar value => value.shown
  | 0, _, .cell _ => ""
  | levels + 1, around, .cell place =>
      match web[place]? with
      | none => ""
      | some cell =>
          if around.contains place then showAgain cell
          else showCell (showLink web levels (place :: around)) cell

def shown (web : Web) (place : Nat) : String :=
  showLink web (web.size + 1) [] (.cell place)

/-- Adds the places that can be reached from some places, as many steps as the fuel says. -/
def reach (web : Web) : Nat → List Nat → List Nat → List Nat
  | 0, _, found => found
  | _, [], found => found
  | fuel + 1, place :: rest, found =>
      if found.contains place then reach web fuel rest found
      else
        let next := ((web[place]?.map Cell.links).getD []).filterMap fun link =>
          match link with
          | .cell next => some next
          | .scalar _ => none
        reach web fuel (next ++ rest) (place :: found)

def reachable (web : Web) (place : Nat) : List Nat :=
  reach web (web.foldl (fun count cell => count + cell.links.length) 2) [place] []

/-- Tells whether a collection can be written, apart from the collections in it. -/
def isCellWritable (cell : Cell) : Bool :=
  cell.keys.all Scalar.isWritable
    && cell.links.all fun link =>
      match link with
      | .scalar value => value.isWritable
      | .cell _ => true

/-- Tells whether the collection at a place can be written: nothing that it leads to holds a whole
number with too many digits. -/
def isWritable (web : Web) (place : Nat) : Bool :=
  (reachable web place).all fun reached => (web[reached]?.map isCellWritable).getD true

end Web

/-! ## Values -/

namespace Datum

mutual

def shown : Datum → String
  | .scalar value => value.shown
  | .list items => "[" ++ ", ".intercalate (shownItems items) ++ "]"
  | .map entries => "\x7b" ++ ", ".intercalate (shownEntries entries) ++ "\x7d"
  | .pair first second => "(" ++ first.shown ++ ", " ++ second.shown ++ ")"
  | .set members =>
      if members.isEmpty then "set()"
      else "\x7b" ++ ", ".intercalate (members.map Scalar.shown) ++ "\x7d"
  | .within web place => web.shown place

def shownItems : List Datum → List String
  | [] => []
  | item :: rest => item.shown :: shownItems rest

def shownEntries : List (Scalar × Datum) → List String
  | [] => []
  | (key, value) :: rest => (key.shown ++ ": " ++ value.shown) :: shownEntries rest

end

def plain : Datum → String
  | .scalar value => value.plain
  | other => other.shown

mutual

/-- Tells whether a value can be written: it holds no whole number with too many digits. -/
def isWritable : Datum → Bool
  | .scalar value => value.isWritable
  | .list items => areWritable items
  | .map entries => areEntriesWritable entries
  | .pair first second => first.isWritable && second.isWritable
  | .set members => members.all Scalar.isWritable
  | .within web place => web.isWritable place

def areWritable : List Datum → Bool
  | [] => true
  | item :: rest => item.isWritable && areWritable rest

def areEntriesWritable : List (Scalar × Datum) → Bool
  | [] => true
  | (key, value) :: rest => key.isWritable && value.isWritable && areEntriesWritable rest

end

end Datum

end DriverKit
