import DriverKit.Text.Digit

/-!
# Characters of documents

The classes of characters that the grammar of documents is built on. The end of a document counts
as a blank, and as a break, wherever one of them may follow.
-/

namespace DriverKit.Yaml

def isBreak (c : Char) : Bool :=
  c == '\n' || c == '\r' || c == '\u0085' || c == '\u2028' || c == '\u2029'

def isGap (c : Char) : Bool :=
  c == ' ' || c == '\t' || isBreak c

def isSpaceOrBreak (c : Char) : Bool :=
  c == ' ' || isBreak c

def nextIs (test : Char → Bool) : Option Char → Bool
  | none => true
  | some c => test c

def isOneOf (characters : String) (c : Char) : Bool :=
  characters.toList.contains c

/-- A character of names: a letter or digit of seven bits, a hyphen or an underscore. -/
def isNameCharacter (c : Char) : Bool :=
  c.isAlphanum || c == '-' || c == '_'

/-- A character that may stand in a tag; a percent sign starts an escaped octet. -/
def isTagCharacter (c : Char) : Bool :=
  c.isAlphanum || isOneOf "-;/?:@&=+$,_.!~*'()[]%" c

def isAllowed (c : Char) : Bool :=
  let code := c.toNat
  code == 0x09 || code == 0x0A || code == 0x0D || (0x20 ≤ code && code ≤ 0x7E) || code == 0x85
    || (0xA0 ≤ code && code ≤ 0xD7FF) || (0xE000 ≤ code && code ≤ 0xFFFD) || 0x10000 ≤ code

def byteOrderMark : Char := '\uFEFF'

end DriverKit.Yaml
