import DriverKit.Text.CodePoint
import DriverKit.Text.Numeral
import DriverKit.Text.Printable

/-!
# Quoted text

A text as it is shown inside a larger one: between two quotation marks, on one line, with every
character visible. Apostrophes surround it, unless it holds an apostrophe and no double quotation
mark.
-/

namespace DriverKit.Text

/-- A code point after a backslash, in as many digits of base sixteen as its size needs. -/
def escapeCode (code : Nat) : List Char :=
  if code < 0x100 then '\\' :: 'x' :: hexDigits 2 code
  else if code < 0x10000 then '\\' :: 'u' :: hexDigits 4 code
  else '\\' :: 'U' :: hexDigits 8 code

def showCharacter (mark c : Char) : List Char :=
  if c == mark || c == '\\' then ['\\', c]
  else if c == '\n' then ['\\', 'n']
  else if c == '\r' then ['\\', 'r']
  else if c == '\t' then ['\\', 't']
  else if isPrintable c then [c]
  else escapeCode (codePoint c)

def surroundingMark (characters : List Char) : Char :=
  if characters.contains '\'' && !characters.contains '"' then '"' else '\''

def quoted (text : String) : String :=
  let mark := surroundingMark text.toList
  String.ofList (mark :: text.toList.flatMap (showCharacter mark) ++ [mark])

def showByte (mark : Char) (byte : UInt8) : List Char :=
  let c := Char.ofNat byte.toNat
  if c == mark || c == '\\' then ['\\', c]
  else if c == '\n' then ['\\', 'n']
  else if c == '\r' then ['\\', 'r']
  else if c == '\t' then ['\\', 't']
  else if 0x20 ≤ byte && byte < 0x7F then [c]
  else '\\' :: 'x' :: hexDigits 2 byte.toNat

def quotedBytes (bytes : List UInt8) : String :=
  let mark := surroundingMark (bytes.map fun byte => Char.ofNat byte.toNat)
  String.ofList ('b' :: mark :: bytes.flatMap (showByte mark) ++ [mark])

/-- A text in which every character beyond seven bits is shown by its code point. -/
def plainAscii (text : String) : String :=
  String.ofList <| text.toList.flatMap fun c =>
    if c.toNat < 0x80 then [c] else escapeCode (codePoint c)

end DriverKit.Text
