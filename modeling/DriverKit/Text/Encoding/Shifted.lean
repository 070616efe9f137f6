import DriverKit.Text.Base64
import DriverKit.Text.Encoding.Units

/-!
# Text in seven bits

Text written with characters of seven bits alone. Letters, digits and most marks stand for
themselves. Runs of other characters are shifted: a plus sign, the bits of their units of two
octets in base 64, and a minus sign where the run would seem to go on without one.
-/

namespace DriverKit.Text.Shifted

/-- A character that stands for itself: a line break, a tab, or a visible character of seven bits
other than the plus sign, the backslash and the tilde. -/
def isDirect (c : Char) : Bool :=
  c == '\t' || c == '\n' || c == '\r'
    || (0x20 ≤ c.toNat && c.toNat < 0x7E && c != '+' && c != '\\')

def sextet (value : Nat) : Char :=
  if value < 26 then Char.ofNat ('A'.toNat + value)
  else if value < 52 then Char.ofNat ('a'.toNat + (value - 26))
  else if value < 62 then Char.ofNat ('0'.toNat + (value - 52))
  else if value == 62 then '+'
  else '/'

def bits (unit : Nat) : List Bool :=
  (List.range 16).map fun place => unit.testBit (15 - place)

def sextetOf (bits : List Bool) : Nat :=
  (bits ++ List.replicate (6 - bits.length) false).foldl
    (fun value bit => 2 * value + bit.toNat) 0

def inBase64 : List Bool → List Char
  | first :: second :: third :: fourth :: fifth :: sixth :: rest =>
      sextet (sextetOf [first, second, third, fourth, fifth, sixth]) :: inBase64 rest
  | [] => []
  | short => [sextet (sextetOf short)]

/-- A run of characters that do not stand for themselves, with what follows it. -/
def shifted (run : List Char) (next : Option Char) : List Char :=
  let closed :=
    match next with
    | some c => (sextet? c).isSome || c == '-'
    | none => true
  '+' :: inBase64 ((run.flatMap units16).flatMap bits) ++ (if closed then ['-'] else [])

/-- Writes characters; `run` holds the characters of the shifted run so far, the last one first. -/
def writeAfter (run : List Char) : List Char → List Char
  | [] => if run.isEmpty then [] else shifted run.reverse none
  | c :: rest =>
      if isDirect c then
        (if run.isEmpty then [] else shifted run.reverse (some c)) ++ c :: writeAfter [] rest
      else if c == '+' && run.isEmpty then '+' :: '-' :: writeAfter [] rest
      else writeAfter (c :: run) rest

def write (characters : List Char) : List Char := writeAfter [] characters

end DriverKit.Text.Shifted
