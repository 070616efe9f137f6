import DriverKit.Text.Encoding
import DriverKit.Yaml.Assembly
import DriverKit.Yaml.Graph.Reading

/-!
# Reading documents

The value of a document. A document is faulty if it has a character that may not stand in it, if it
breaks the grammar or if a value in it makes no sense, in this order. In a file that is read piece
by piece another fault can come first, so what reads files is left open here: it is a parameter of
all that reads documents from files. One that reads files as a whole is given.
-/

namespace DriverKit.Yaml

/-- The value of a document. Nodes that lie below more than so many levels are given up. -/
def read (levels : Nat) (characters : List Char) : Except Fault Datum :=
  if !characters.all isAllowed then .error .malformed
  else do (← Graph.read levels characters).datum

/-- What reads documents from files: the value that the bytes of a file stand for. -/
structure Loader where
  read : ByteArray → Except Fault Datum

/-- Reads the whole text of a file before it looks for a document. -/
def Loader.ofLevels (levels : Nat) : Loader where
  read bytes :=
    match Text.decodeLines? bytes with
    | none => .error (.misuse .undecodable)
    | some characters => Yaml.read levels characters

end DriverKit.Yaml
