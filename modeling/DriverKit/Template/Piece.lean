import DriverKit.Text.Digit

/-!
# Pieces of a template

A template is text with fields in braces; two braces of one kind stand for the brace itself. A
field has a name, and may have a conversion after an exclamation mark and a layout after a colon.
A template that breaks these rules is taken apart up to the place where it does, and ends with a
piece that says so.
-/

namespace DriverKit.Template

inductive Piece where
  | literal (characters : List Char)
  | field (name : List Char) (conversion : Option Char) (layout : List Char)
  /-- The rest of the template is not made of pieces. -/
  | broken
deriving DecidableEq, Repr

/-- What follows the name of a field. -/
inductive Terminator where
  | close
  | colon
  | exclamation
deriving DecidableEq, Repr

/-- Scans a name up to the character that ends it. In brackets only the closing bracket counts. -/
def scanName (inBrackets : Bool) : List Char → Option (List Char × Terminator × List Char)
  | [] => none
  | c :: rest =>
      let keep (brackets : Bool) :=
        (scanName brackets rest).map fun (name, ending) => (c :: name, ending)
      if inBrackets then keep (c != ']')
      else if c == '\x7b' then none
      else if c == '\x7d' then some ([], .close, rest)
      else if c == ':' then some ([], .colon, rest)
      else if c == '!' then some ([], .exclamation, rest)
      else keep (c == '[')

/-- Scans a layout up to the brace that closes the field, past as many fields of its own as it
opens. -/
def scanLayout (depth : Nat) : List Char → Option (List Char × List Char)
  | [] => none
  | c :: rest =>
      let keep (depth : Nat) :=
        (scanLayout depth rest).map fun (layout, ending) => (c :: layout, ending)
      if c == '\x7b' then keep (depth + 1)
      else if c == '\x7d' then
        match depth with
        | 0 => some ([], rest)
        | depth + 1 => keep depth
      else keep depth

def scanField (characters : List Char) : Option (Piece × List Char) := do
  match ← scanName false characters with
  | (name, .close, rest) => return (.field name none [], rest)
  | (name, .colon, rest) =>
      let (layout, rest) ← scanLayout 0 rest
      return (.field name none layout, rest)
  | (_, .exclamation, []) => none
  | (name, .exclamation, conversion :: rest) =>
      match rest with
      | '\x7d' :: rest => return (.field name (some conversion) [], rest)
      | ':' :: rest =>
          let (layout, rest) ← scanLayout 0 rest
          return (.field name (some conversion) layout, rest)
      | _ => none

def isBrace (c : Char) : Bool := c == '\x7b' || c == '\x7d'

def piecesWithin : Nat → List Char → List Piece
  | 0, _ => []
  | _ + 1, [] => []
  | fuel + 1, first :: rest =>
      if !isBrace first then
        let (plain, rest) := (first :: rest).span (!isBrace ·)
        .literal plain :: piecesWithin fuel rest
      else
        match rest with
        | [] => [.broken]
        | second :: others =>
            if first == second then .literal [first] :: piecesWithin fuel others
            else if first == '\x7d' then [.broken]
            else
              match scanField rest with
              | some (piece, others) => piece :: piecesWithin fuel others
              | none => [.broken]

def pieces (template : List Char) : List Piece :=
  piecesWithin (template.length + 1) template

/-! ## Names of fields -/

/-- One step from a value to a part of it. -/
inductive Access where
  | attribute (name : List Char)
  | place (name : List Char)
deriving DecidableEq, Repr

/-- A field's name taken apart: the value it starts from and the steps to its part. A broken step
ends the list. -/
structure Reference where
  first : List Char
  steps : List (Option Access)
deriving DecidableEq, Repr

def stepsWithin : Nat → List Char → List (Option Access)
  | 0, _ => []
  | _ + 1, [] => []
  | fuel + 1, c :: rest =>
      if c == '.' then
        let (name, rest) := rest.span fun c => c != '.' && c != '['
        if name.isEmpty then [none] else some (.attribute name) :: stepsWithin fuel rest
      else if c == '[' then
        match rest.span (· != ']') with
        | (_, []) => [none]
        | ([], _) => [none]
        | (name, _ :: rest) => some (.place name) :: stepsWithin fuel rest
      else [none]

def Reference.ofName (name : List Char) : Reference :=
  let (first, rest) := name.span fun c => c != '.' && c != '['
  ⟨first, stepsWithin (rest.length + 1) rest⟩

inductive PlaceNumber where
  | none
  | number (value : Nat)
  | tooLarge
deriving DecidableEq, Repr

def greatestPlace : Nat := 1 <<< 63 - 1

/-- Reads a place number digit by digit, in the digits of any script. -/
def placeNumberFrom (value : Nat) : List Char → PlaceNumber
  | [] => .number value
  | c :: rest =>
      match Text.digitValue? c with
      | Option.none => .none
      | some digit =>
          if greatestPlace < 10 * value + digit then .tooLarge
          else placeNumberFrom (10 * value + digit) rest

/-- Reads a name as a place number; the empty name is none. -/
def placeNumber (name : List Char) : PlaceNumber :=
  if name.isEmpty then .none else placeNumberFrom 0 name

end DriverKit.Template
