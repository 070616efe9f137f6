import DriverKit.Decimal.Binary64

/-!
# Shortest decimals

The decimal with the fewest digits that reads back as a given double precision number, and of
those with equally few digits the nearest; and the text of the number made from it.
-/

namespace DriverKit.Decimal

namespace Shortest

/-- A decimal: digits times ten to an exponent. -/
structure Scaled where
  digits : Nat
  exponent : Int
deriving DecidableEq, Repr

/-- The reals that round to a number, with the number itself, all over one denominator. The ends
belong to the interval exactly when the significand is even. -/
structure Interval where
  low : Nat
  value : Nat
  high : Nat
  denominator : Nat
  closed : Bool

/-- The interval of a significand and an exponent: halfway to the neighbours on both sides. Below
a power of two the lower neighbour is only half as far away. -/
def interval (significand : Nat) (exponent : Int) : Interval :=
  let narrow := significand == 1 <<< 52 && Binary64.leastExponent < exponent
  let (value, denominator) := Binary64.ratio (4 * significand) (exponent - 2)
  let (quarter, _) := Binary64.ratio 1 (exponent - 2)
  { low := value - (if narrow then quarter else 2 * quarter)
    value := value
    high := value + 2 * quarter
    denominator := denominator
    closed := significand % 2 == 0 }

def Interval.contains (range : Interval) (numerator denominator : Nat) : Bool :=
  let point := numerator * range.denominator
  if range.closed then range.low * denominator ≤ point && point ≤ range.high * denominator
  else range.low * denominator < point && point < range.high * denominator

def leadingExponent (numerator denominator : Nat) : Int :=
  if denominator ≤ numerator then
    ((Nat.toDigits 10 (numerator / denominator)).length : Int) - 1
  else
    -((Nat.toDigits 10 ((denominator - 1) / numerator)).length : Int)

def Scaled.ratio (decimal : Scaled) : Nat × Nat :=
  if decimal.exponent < 0 then (decimal.digits, Nat.pow 10 decimal.exponent.natAbs)
  else (decimal.digits * Nat.pow 10 decimal.exponent.natAbs, 1)

def Interval.admits (range : Interval) (decimal : Scaled) : Bool :=
  let (numerator, denominator) := decimal.ratio
  range.contains numerator denominator

/-- Of the two neighbours of the value on a decimal grid the nearer one that reads back, if there
is one. A tie goes to the even digit. -/
def Interval.onGrid (range : Interval) (exponent : Int) : Option Scaled :=
  let (numerator, denominator) :=
    if exponent < 0 then (range.value * Nat.pow 10 exponent.natAbs, range.denominator)
    else (range.value, range.denominator * Nat.pow 10 exponent.natAbs)
  let below : Scaled := ⟨numerator / denominator, exponent⟩
  let above : Scaled := ⟨numerator / denominator + 1, exponent⟩
  match range.admits below, range.admits above with
  | true, true =>
      if Binary64.roundQuotient numerator denominator == below.digits then some below
      else some above
  | true, false => some below
  | false, true => some above
  | false, false => none

/-- Searches ever finer grids, as many as the fuel says, and gives the exact value if none has a
decimal that reads back. -/
def search (range : Interval) (exponent : Int) : Nat → Scaled
  | 0 => ⟨range.value, 0⟩
  | fuel + 1 =>
      match range.onGrid exponent with
      | some decimal => decimal
      | none => search range (exponent - 1) fuel

def ofFinite (significand : Nat) (exponent : Int) : Scaled :=
  let range := interval significand exponent
  search range (leadingExponent range.value range.denominator) 18

end Shortest

/-- How a number is laid out: the leading exponents from `firstPlain` up to but not including
`endPlain` are written without an exponent. -/
structure Layout where
  firstPlain : Int
  endPlain : Int

def Layout.usual : Layout := ⟨-4, 16⟩

def dropZeros (digits : List Char) : List Char :=
  match (digits.reverse.dropWhile (· == '0')).reverse with
  | [] => ['0']
  | kept => kept

/-- A decimal point among digits, with zeros where digits are missing and at least one digit after
the point. -/
def placePoint (digits : List Char) (leading : Int) : List Char :=
  if leading < 0 then
    '0' :: '.' :: List.replicate (leading.natAbs - 1) '0' ++ digits
  else
    let whole := leading.natAbs + 1
    let front := digits.take whole
    let back := digits.drop whole
    front ++ List.replicate (whole - front.length) '0'
      ++ '.' :: (if back.isEmpty then ['0'] else back)

/-- Digits with one before the point and an exponent of at least two digits. -/
def placeExponent (digits : List Char) (leading : Int) : List Char :=
  let exponent := Nat.toDigits 10 leading.natAbs
  let mantissa :=
    match digits with
    | first :: second :: rest => first :: '.' :: second :: rest
    | short => short
  mantissa ++ 'e' :: (if leading < 0 then '-' else '+')
    :: List.replicate (2 - exponent.length) '0' ++ exponent

/-- The text of a number: the shortest decimal that reads back as it. -/
def Binary64.text : Binary64 → String
  | .nan => "nan"
  | .infinite negative => if negative then "-inf" else "inf"
  | .finite negative significand exponent =>
      let body :=
        if significand == 0 then ['0', '.', '0']
        else
          let decimal := Shortest.ofFinite significand exponent
          let all := Nat.toDigits 10 decimal.digits
          let leading := decimal.exponent + all.length - 1
          let digits := dropZeros all
          if Layout.usual.firstPlain ≤ leading && leading < Layout.usual.endPlain then
            placePoint digits leading
          else placeExponent digits leading
      String.ofList (if negative then '-' :: body else body)

end DriverKit.Decimal
