import DriverKit.Datum.Basic

/-!
# Outlines

The data that documents are written in: absent values, natural numbers, texts, and lists and maps
of them, where the keys of a map are texts.
-/

namespace DriverKit.Yaml

inductive Outline where
  | null
  | number (value : Nat)
  | text (value : String)
  | list (items : List Outline)
  | map (entries : List (String × Outline))
deriving Repr

namespace Outline

def optional : Option String → Outline
  | none => .null
  | some value => .text value

def texts (values : List String) : Outline := .list (values.map .text)

mutual

def datum : Outline → Datum
  | .null => .null
  | .number value => .int value
  | .text value => .text value
  | .list items => .list (itemData items)
  | .map entries => .map (entryData entries)

def itemData : List Outline → List Datum
  | [] => []
  | item :: rest => item.datum :: itemData rest

def entryData : List (String × Outline) → List (Scalar × Datum)
  | [] => []
  | (key, value) :: rest => (.text key, value.datum) :: entryData rest

end

end Outline

end DriverKit.Yaml
