import DriverKit.Yaml.Outline
import DriverKit.Yaml.Writing.Text

/-!
# Writing documents

The text of an outline: one entry or item on a line, with two columns of indentation for what
lies deeper. A list that is the value of a key stands at the indentation of the key.
-/

namespace DriverKit.Yaml

namespace Outline

/-- The text of a value that takes no lines of its own: an absent value, a number, a text, or a
collection without parts. -/
def inline (spot : Spot) : Outline → List Char
  | .null => "null".toList
  | .number value => Text.digitsIn 10 value
  | .text value => (Style.ofText value false).write spot value
  | .list _ => "[]".toList
  | .map _ => "\x7b\x7d".toList

/-- Puts lines together, each at an indentation; the first one goes on where the text is. -/
def joined (indent : Nat) (lines : List (List Char)) : List Char :=
  (newLine indent).intercalate lines

mutual

/-- What follows the mark of an item, or of the value of a long key, at an indentation. -/
def afterMark (indent : Nat) : Outline → List Char
  | .list (item :: rest) => ' ' :: joined (indent + 2) (itemLines (indent + 2) (item :: rest))
  | .map (entry :: rest) => ' ' :: joined (indent + 2) (entryLines (indent + 2) (entry :: rest))
  | value => ' ' :: inline ⟨indent + 2, indent + 2, true⟩ value

/-- What follows a key and its colon; the key is at an indentation, and the colon ends at a
column. -/
def afterKey (indent column : Nat) : Outline → List Char
  | .list (item :: rest) => newLine indent ++ joined indent (itemLines indent (item :: rest))
  | .map (entry :: rest) =>
      newLine (indent + 2) ++ joined (indent + 2) (entryLines (indent + 2) (entry :: rest))
  | value => ' ' :: inline ⟨column + 1, indent + 2, true⟩ value

def itemLines (indent : Nat) : List Outline → List (List Char)
  | [] => []
  | item :: rest => ('-' :: afterMark indent item) :: itemLines indent rest

def entryLines (indent : Nat) : List (String × Outline) → List (List Char)
  | [] => []
  | (key, value) :: rest =>
      let entry :=
        if isSimpleKey key then
          let name := (Style.ofText key true).write ⟨indent, indent + 2, false⟩ key
          name ++ ':' :: afterKey indent (indent + name.length + 1) value
        else
          let name := (Style.ofText key false).write ⟨indent + 2, indent + 2, true⟩ key
          '?' :: ' ' :: name ++ newLine indent ++ ':' :: afterMark indent value
      entry :: entryLines indent rest

end

end Outline

/-- The document of a map. -/
def write (entries : List (String × Outline)) : String :=
  if entries.isEmpty then "\x7b\x7d\n"
  else String.ofList (Outline.joined 0 (Outline.entryLines 0 entries) ++ ['\n'])

end DriverKit.Yaml
