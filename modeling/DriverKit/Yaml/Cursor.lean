import DriverKit.Yaml.Character

/-!
# Places in a document

A place in a document with what follows it, and the steps by which a reader moves on. Lines and
columns count from zero; a byte order mark has no width.
-/

namespace DriverKit.Yaml

structure Cursor where
  rest : List Char
  index : Nat
  line : Nat
  column : Nat

namespace Cursor

def start (characters : List Char) : Cursor := ⟨characters, 0, 0, 0⟩

def next (cursor : Cursor) : Option Char := cursor.rest.head?

def ahead (cursor : Cursor) (count : Nat) : Option Char := cursor.rest[count]?

def at? (cursor : Cursor) (c : Char) : Bool := cursor.next == some c

def advance (cursor : Cursor) : Cursor :=
  match cursor.rest with
  | [] => cursor
  | c :: rest =>
      if c != '\r' && isBreak c || c == '\r' && rest.head? != some '\n' then
        ⟨rest, cursor.index + 1, cursor.line + 1, 0⟩
      else if c == byteOrderMark then ⟨rest, cursor.index + 1, cursor.line, cursor.column⟩
      else ⟨rest, cursor.index + 1, cursor.line, cursor.column + 1⟩

def advanceBy (cursor : Cursor) : Nat → Cursor
  | 0 => cursor
  | count + 1 => cursor.advance.advanceBy count

def span (cursor : Cursor) (test : Char → Bool) : List Char × Cursor :=
  let run := cursor.rest.takeWhile test
  (run, cursor.advanceBy run.length)

def skip (cursor : Cursor) (test : Char → Bool) : Cursor := (cursor.span test).2

def skipSpacesTo (cursor : Cursor) (column : Int) : Cursor :=
  let spaces := (cursor.rest.takeWhile (· == ' ')).length
  cursor.advanceBy (min spaces (column - cursor.column).toNat)

def lineBreak (cursor : Cursor) : List Char × Cursor :=
  match cursor.rest with
  | '\r' :: '\n' :: _ => (['\n'], cursor.advanceBy 2)
  | c :: _ =>
      if c == '\n' || c == '\r' || c == '\u0085' then (['\n'], cursor.advance)
      else if c == '\u2028' || c == '\u2029' then ([c], cursor.advance)
      else ([], cursor)
  | [] => ([], cursor)

/-- Tells whether three equal characters come next, and a gap after them. -/
def isMarker (cursor : Cursor) (c : Char) : Bool :=
  cursor.rest.take 3 == [c, c, c] && nextIs isGap (cursor.ahead 3)

def isDocumentMarker (cursor : Cursor) : Bool :=
  cursor.isMarker '-' || cursor.isMarker '.'

end Cursor

end DriverKit.Yaml
