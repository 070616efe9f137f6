import DriverKit.Yaml.Character
import DriverKit.Yaml.Tag

/-!
# Styles of texts

How a text is put into a document: plain if nothing in it could be taken for something else, else
between single marks, and between double marks if it has characters that only an escape can stand
for. A document is written with printable characters of seven bits only.
-/

namespace DriverKit.Yaml

/-- A way to write a text. -/
inductive Style where
  | plain
  | single
  | double
deriving DecidableEq, Repr

namespace Style

/-- A character that is written as it is: a printable one of seven bits, or a line feed. -/
def isWritten (c : Char) : Bool :=
  c == '\n' || (0x20 ≤ c.toNat && c.toNat ≤ 0x7E)

/-- Tells whether two characters follow each other directly somewhere. -/
def hasAdjacent (first second : Char) : List Char → Bool
  | c :: d :: rest => (c == first && d == second) || hasAdjacent first second (d :: rest)
  | _ => false

def endsWordWithColon : List Char → Bool
  | [] => false
  | c :: rest => (c == ':' && nextIs isGap rest.head?) || endsWordWithColon rest

/-- Tells whether a text begins like something else than a text. -/
def beginsWithMark (characters : List Char) : Bool :=
  match characters with
  | [] => false
  | c :: rest =>
      ['-', '-', '-'].isPrefixOf characters || ['.', '.', '.'].isPrefixOf characters
        || isOneOf "#,[]\x7b\x7d&*!|>'\"%@\x60" c
        || (isOneOf "?-" c && nextIs isGap rest.head?)

/-- Tells whether a text can be plain as far as its characters go. -/
def mayBePlain (characters : List Char) : Bool :=
  characters.all isWritten && !characters.contains '\n' && !beginsWithMark characters
    && !endsWordWithColon characters && !hasAdjacent ' ' '#' characters
    && characters.head? != some ' ' && characters.getLast? != some ' '

/-- Tells whether a text can stand between single marks: blanks next to breaks would be lost. -/
def mayBeSingle (characters : List Char) : Bool :=
  characters.all isWritten && !hasAdjacent ' ' '\n' characters && !hasAdjacent '\n' ' ' characters

/-- The style of a text. As a key on one line a text has no breaks, unless they are escaped. -/
def ofText (text : String) (asKey : Bool) : Style :=
  let characters := text.toList
  if mayBePlain characters && Tag.ofPlain text == .text then .plain
  else if mayBeSingle characters && !(asKey && characters.contains '\n') then .single
  else .double

end Style

/-! ## Keys -/

/-- The length from which on a key has a mark of its own. -/
def longKeyLength : Nat := 123

/-- Tells whether a key stands before its colon without a mark of its own: it is short, and it is
not empty and has no breaks. -/
def isSimpleKey (key : String) : Bool :=
  key.toList.length < longKeyLength && !key.toList.isEmpty
    && !key.toList.any fun c => isBreak c && c != '\r'

end DriverKit.Yaml
