/-!
# Code pages

Encodings with one octet for each character: a table of the characters that the octets from a first
one on stand for. An octet below the first one stands for the character with its number.
-/

namespace DriverKit.Text

/-- A table of characters for octets. -/
structure CodePage where
  /-- The names of the table, the usual one first. -/
  names : List String
  /-- The first octet of the table. -/
  first : Nat
  /-- The characters of the octets; the replacement character marks octets without one. -/
  characters : String
deriving DecidableEq, Repr

namespace CodePage

def gap : Char := '\uFFFD'

def octet? (page : CodePage) (c : Char) : Option UInt8 :=
  if c.toNat < page.first then some (UInt8.ofNat c.toNat)
  else if c == gap then none
  else (page.characters.toList.idxOf? c).map fun place => UInt8.ofNat (page.first + place)

def octets? (page : CodePage) (characters : List Char) : Option (List UInt8) :=
  characters.mapM page.octet?

end CodePage

end DriverKit.Text
