import DriverKit.Failure
import DriverKit.Template.Layout
import DriverKit.Template.Piece

/-!
# Values of templates

What a field of a template can stand for. A field starts from a kit version, a number or a text, and
can go on to any part that the host gives such a value. The fields of a version, its build number
and the components of a number are parts on every host; the others, and all that is reached through
them, are left to the host.
-/

namespace DriverKit.Template

/-- A value that a field can have. What only the host knows is given by a number of the host. -/
inductive Value where
  | release (version : KitVersion)
  | fields (values : List Nat)
  | whole (number : Int)
  | text (characters : List Char)
  | thing (number : Nat)
deriving Repr

/-- What a host says about the parts of values, and about the things that only it knows. -/
structure Parts where
  /-- The part that a name stands for, where it is not one that every host has. -/
  named : Value → String → Except Misuse Value
  /-- The part of a thing at a place, or under a text if the name is no number. -/
  item : Nat → List Char → Except Misuse Value
  plain : Nat → Except Misuse String
  shown : Nat → Except Misuse String
  laid : Nat → List Char → Except Misuse (List Char)

/-- A host whose values have no parts but those of every host. -/
def Parts.fewest : Parts where
  named _ _ := .error .absentPart
  item _ _ := .error .notIndexable
  plain _ := .ok ""
  shown _ := .ok ""
  laid _ _ := .error .noLayout

namespace Value

variable (parts : Parts)

def named : Value → String → Except Misuse Value
  | .release version, "fields" => .ok (.fields version.fields)
  | .release version, "build_number" => .ok (.whole version.build)
  | .whole number, "real" => .ok (.whole number)
  | .whole number, "numerator" => .ok (.whole number)
  | .whole _, "imag" => .ok (.whole 0)
  | .whole _, "denominator" => .ok (.whole 1)
  | value, name => parts.named value name

/-- The part of a value at a place. Versions and numbers have no places, and only numbers name those
of fields and texts. -/
def part (value : Value) (name : List Char) : Except Misuse Value :=
  match placeNumber name, value with
  | .tooLarge, _ => .error .malformedTemplate
  | _, .thing number => parts.item number name
  | .number place, .fields values =>
      match values[place]? with
      | some field => .ok (.whole field)
      | none => .error .absentPlace
  | .number place, .text characters =>
      match characters[place]? with
      | some c => .ok (.text [c])
      | none => .error .absentPlace
  | _, _ => .error .notIndexable

def shownFields (values : List Nat) : String :=
  match values with
  | [only] => "(" ++ Nat.repr only ++ ",)"
  | several => "(" ++ ", ".intercalate (several.map Nat.repr) ++ ")"

def plain : Value → Except Misuse String
  | .release version => .ok version.text
  | .fields values => .ok (shownFields values)
  | .whole number => .ok (Text.writeInteger number)
  | .text characters => .ok (String.ofList characters)
  | .thing number => parts.plain number

def shown : Value → Except Misuse String
  | .release version => .ok version.shown
  | .text characters => .ok (Text.quoted (String.ofList characters))
  | .thing number => parts.shown number
  | other => other.plain parts

def convert (value : Value) : Option Char → Except Misuse Value
  | none => .ok value
  | some 's' => (.text ·.toList) <$> value.plain parts
  | some 'r' => (.text ·.toList) <$> value.shown parts
  | some 'a' => (fun shown => .text (Text.plainAscii shown).toList) <$> value.shown parts
  | some _ => .error .malformedTemplate

/-- Lays a value out. Versions and fields have no layouts. -/
def lay (value : Value) (layout : List Char) : Except Misuse (List Char) :=
  match value with
  | .text characters => FieldLayout.layText layout characters
  | .whole number => FieldLayout.layNumber layout number
  | .thing number => parts.laid number layout
  | other =>
      if layout.isEmpty then String.toList <$> other.plain parts else .error .noLayout

end Value

end DriverKit.Template
