/-!
# Code points

Texts hold characters, but an escape in a document can also name a surrogate, a code point that is
no character. A text holds such a code point as a stand-in, the character of the last private plane
whose number ends in the same four digits, and shows it as what it stands for.
-/

namespace DriverKit.Text

def isSurrogate (code : Nat) : Bool :=
  0xD800 ≤ code && code ≤ 0xDFFF

/-- The number of the last private plane, at the place of its digit. -/
def standInPlane : Nat := 0x100000

def ofCodePoint (code : Nat) : Char :=
  if isSurrogate code then Char.ofNat (standInPlane + code) else Char.ofNat code

def codePoint (c : Char) : Nat :=
  if isSurrogate (c.toNat - standInPlane) then c.toNat - standInPlane else c.toNat

end DriverKit.Text
