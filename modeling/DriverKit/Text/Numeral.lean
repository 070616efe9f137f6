import DriverKit.Text.Blank
import DriverKit.Text.Digit

/-!
# Numerals

Whole numbers read from and written to text. A decimal numeral of more than 4300 digits is neither
read nor written; the limit counts every digit, leading zeros included.
-/

namespace DriverKit.Text

def digitLimit : Nat := 4300

def plainNumber (digits : List Char) : Nat :=
  digits.foldl (fun number c => 10 * number + plainDigitValue c) 0

def readNumber? (digits : List Char) : Option Nat :=
  if digits.length ≤ digitLimit then some (plainNumber digits) else none

def isNumeral (characters : List Char) : Bool :=
  !characters.isEmpty && characters.all isPlainDigit

/-- A blank that may pad a numeral: every blank except the information separators. -/
def isPadding (c : Char) : Bool :=
  isBlank c && !(0x1C ≤ c.toNat && c.toNat ≤ 0x1F)

def unpadded (characters : List Char) : List Char :=
  ((characters.dropWhile isPadding).reverse.dropWhile isPadding).reverse

def splitSign : List Char → Bool × List Char
  | '-' :: rest => (true, rest)
  | '+' :: rest => (false, rest)
  | characters => (false, characters)

/-- The mark that may stand before the digits of a base, in small letters. -/
def baseMark : Nat → Option Char
  | 2 => some 'b'
  | 8 => some 'o'
  | 16 => some 'x'
  | _ => none

/-- Takes a mark such as `0x` away when it is the mark of the given base. -/
def dropBaseMark (base : Nat) : List Char → List Char
  | '0' :: mark :: rest =>
      if baseMark base == some mark.toLower then rest else '0' :: mark :: rest
  | characters => characters

/-- The value of a digit of any script, or of a letter used as a digit, if the base has it. -/
def digitIn? (base : Nat) (c : Char) : Option Nat :=
  match (digitValue? c).or (hexDigitValue? c) with
  | some value => if value < base then some value else none
  | none => none

/-- Reads a whole number in a base up to sixteen: padding, a sign, the mark of the base, digits of
any script. -/
def readInteger? (base : Nat) (characters : List Char) : Option Int := do
  let (negative, rest) := splitSign (unpadded characters)
  let digits := dropBaseMark base rest
  if digits.isEmpty || (base == 10 && digitLimit < digits.length) then none
  else
    let values ← digits.mapM (digitIn? base)
    let magnitude := values.foldl (fun number value => base * number + value) 0
    some (if negative then -(magnitude : Int) else magnitude)

def digitsIn (base number : Nat) : List Char :=
  Nat.toDigits base number

def hexDigits (width number : Nat) : List Char :=
  let digits := digitsIn 16 number
  List.replicate (width - digits.length) '0' ++ digits

def paddedDigits (width number : Nat) : List Char :=
  let digits := digitsIn 10 number
  List.replicate (width - digits.length) '0' ++ digits

def padded (width number : Nat) : String :=
  String.ofList (paddedDigits width number)

def writeInteger (number : Int) : String :=
  if number < 0 then "-" ++ Nat.repr number.natAbs else Nat.repr number.natAbs

def isWritable (number : Int) : Bool :=
  number.natAbs < Nat.pow 10 digitLimit

end DriverKit.Text
