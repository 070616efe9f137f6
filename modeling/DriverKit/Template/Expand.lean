import DriverKit.Template.Value

/-!
# Expanding templates

The text of a template once its fields are filled in. The fields name the kit version, the two
numbers of the framework version and the library folder of the architecture; a field can go on to
parts of these values. The pieces are taken from left to right, so the first fault counts.
-/

namespace DriverKit.Template

abbrev Bindings := List (String × Value)

/-- The part of a value that some accesses lead to. -/
def follow (parts : Parts) (value : Value) : List (Option Access) → Except Misuse Value
  | [] => .ok value
  | none :: _ => .error .malformedTemplate
  | some (.attribute name) :: rest => do
      follow parts (← value.named parts (String.ofList name)) rest
  | some (.place name) :: rest => do follow parts (← value.part parts name) rest

/-- The value of a field. There are no values by number. -/
def resolve (parts : Parts) (bindings : Bindings) (name : List Char) : Except Misuse Value :=
  let reference := Reference.ofName name
  match placeNumber reference.first with
  | .tooLarge => .error .malformedTemplate
  | .number _ => .error .absentPlace
  | .none =>
      if reference.first.isEmpty then .error .absentPlace
      else
        let key := String.ofList reference.first
        match bindings.lookup key with
        | some value => follow parts value reference.steps
        | none => .error (.absentKey (.text key))

/-- Fills in the fields of a template; layouts may hold fields of their own, but those may not
have layouts with fields. -/
def expandWithin (parts : Parts) (bindings : Bindings) :
    Nat → List Char → Except Misuse (List Char)
  | 0, _ => .error .malformedTemplate
  | depth + 1, template => do
      let filled ← (pieces template).mapM fun piece =>
        match piece with
        | .literal characters => .ok characters
        | .broken => .error .malformedTemplate
        | .field name conversion layout => do
            let value ← (← resolve parts bindings name).convert parts conversion
            let layout ←
              if layout.contains '\x7b' then expandWithin parts bindings depth layout
              else .ok layout
            value.lay parts layout
      return filled.flatten

def expand (parts : Parts) (bindings : Bindings) (template : String) : Except Failure String := do
  let filled ← (expandWithin parts bindings 2 template.toList).mapError .misuse
  return String.ofList filled

end DriverKit.Template
