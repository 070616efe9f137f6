import DriverKit.Decimal.Shortest

/-!
# Rounded decimals

Positive ratios written with a given number of digits: with so many places after the point, with an
exponent and so many places, or with so many digits in whichever of the two forms is usual for the
size of the number. A half goes to the even digit.
-/

namespace DriverKit.Decimal

/-- A decimal as it is written: the digits before and after the point, and the exponent of ten if
there is one. -/
structure Rounded where
  whole : List Char
  fraction : List Char
  exponent : Option Int
deriving DecidableEq, Repr

namespace Rounded

def ofUnits (units places : Nat) (exponent : Option Int) : Rounded :=
  let digits := Nat.toDigits 10 units
  let padded := List.replicate (places + 1 - digits.length) '0' ++ digits
  let whole := padded.length - places
  ⟨padded.take whole, padded.drop whole, exponent⟩

def positional (numerator denominator places : Nat) : Rounded :=
  ofUnits (Binary64.roundQuotient (numerator * Nat.pow 10 places) denominator) places none

/-- The units of the last place of a ratio, and the exponent of ten of the place before them by so
many places. -/
def scaled (numerator denominator places : Nat) : Nat × Int :=
  if numerator == 0 then (0, 0)
  else
    let leading := Shortest.leadingExponent numerator denominator
    let shift : Int := places - leading
    let units :=
      if shift < 0 then
        Binary64.roundQuotient numerator (denominator * Nat.pow 10 shift.natAbs)
      else Binary64.roundQuotient (numerator * Nat.pow 10 shift.natAbs) denominator
    if units == Nat.pow 10 (places + 1) then (units / 10, leading + 1) else (units, leading)

def scientific (numerator denominator places : Nat) : Rounded :=
  let (units, leading) := scaled numerator denominator places
  ofUnits units places (some leading)

def withoutZeros (decimal : Rounded) : Rounded :=
  { decimal with fraction := (decimal.fraction.reverse.dropWhile (· == '0')).reverse }

/-- A ratio with a number of digits, at least one: written out from a ten-thousandth up to the
number that needs one digit more, and with an exponent otherwise. -/
def general (numerator denominator digits : Nat) : Rounded :=
  let places := max digits 1 - 1
  let (units, leading) := scaled numerator denominator places
  if Layout.usual.firstPlain ≤ leading && leading ≤ places then
    ofUnits units (places - leading).toNat none
  else ofUnits units places (some leading)

/-- An exponent as it is written: with a sign and at least two digits. -/
def exponentText (mark : Char) (exponent : Int) : List Char :=
  let digits := Nat.toDigits 10 exponent.natAbs
  mark :: (if exponent < 0 then '-' else '+') :: List.replicate (2 - digits.length) '0' ++ digits

/-- What stands after the digits before the point: the point, if places follow or it is asked for,
the places, and the exponent. -/
def tail (decimal : Rounded) (pointed : Bool) (mark : Char) : List Char :=
  (if pointed || !decimal.fraction.isEmpty then ['.'] else [])
    ++ decimal.fraction
    ++ (match decimal.exponent with
        | some exponent => exponentText mark exponent
        | none => [])

end Rounded

end DriverKit.Decimal
