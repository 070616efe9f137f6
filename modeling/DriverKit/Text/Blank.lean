/-!
# Blank characters

The characters that may surround a value without belonging to it, and the text that is left when
they are taken away from both ends.
-/

namespace DriverKit.Text

/-- A blank is white space of any script, a line or page separator, or one of the four
information separators. -/
def isBlank (c : Char) : Bool :=
  let code := c.toNat
  (0x09 ≤ code && code ≤ 0x0D) || (0x1C ≤ code && code ≤ 0x20) || code == 0x85 || code == 0xA0
    || code == 0x1680 || (0x2000 ≤ code && code ≤ 0x200A) || code == 0x2028 || code == 0x2029
    || code == 0x202F || code == 0x205F || code == 0x3000

def trimEnd (characters : List Char) : List Char :=
  (characters.reverse.dropWhile isBlank).reverse

def trimmed (characters : List Char) : List Char :=
  trimEnd (characters.dropWhile isBlank)

def trim (text : String) : String :=
  String.ofList (trimmed text.toList)

end DriverKit.Text
