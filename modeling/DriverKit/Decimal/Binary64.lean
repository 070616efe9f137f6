/-!
# Binary numbers of 64 bits

The numbers of the usual double precision, held as a sign, a significand and an exponent of two,
with exact rounding of ratios, decimals, sums and products to the nearest of them. A half goes to
the even significand.
-/

namespace DriverKit.Decimal

/-- A double precision number. A finite one is the significand times two to the exponent; the
significand has 53 bits, or fewer at the least exponent. -/
inductive Binary64 where
  | nan
  | infinite (negative : Bool)
  | finite (negative : Bool) (significand : Nat) (exponent : Int)
deriving DecidableEq, Repr

namespace Binary64

def leastExponent : Int := -1074

def greatestExponent : Int := 971

def zero (negative : Bool) : Binary64 := .finite negative 0 leastExponent

/-- A quotient rounded to the nearest natural number, a half to the even one. -/
def roundQuotient (numerator denominator : Nat) : Nat :=
  let quotient := numerator / denominator
  let rest := numerator % denominator
  if 2 * rest < denominator then quotient
  else if denominator < 2 * rest then quotient + 1
  else if quotient % 2 == 0 then quotient else quotient + 1

/-- The ratio divided by two to an exponent, as a ratio. -/
def scaleDown (numerator denominator : Nat) (exponent : Int) : Nat × Nat :=
  if exponent < 0 then (numerator <<< exponent.natAbs, denominator)
  else (numerator, denominator <<< exponent.natAbs)

/-- The exponent at which a ratio has a significand of 53 bits, but not below the least one. -/
def exponentFor (numerator denominator : Nat) : Int :=
  let estimate := (numerator.log2 : Int) - denominator.log2 - 52
  let (scaled, unit) := scaleDown numerator denominator estimate
  max leastExponent (if scaled < unit <<< 52 then estimate - 1 else estimate)

/-- The nearest number to a ratio of naturals with a sign. -/
def ofRatio (negative : Bool) (numerator denominator : Nat) : Binary64 :=
  if numerator == 0 then zero negative
  else
    let exponent := exponentFor numerator denominator
    let (scaled, unit) := scaleDown numerator denominator exponent
    let significand := roundQuotient scaled unit
    let (significand, exponent) :=
      if significand == 1 <<< 53 then (1 <<< 52, exponent + 1) else (significand, exponent)
    if greatestExponent < exponent then .infinite negative
    else .finite negative significand exponent

/-- The nearest number to a natural number times ten to an exponent. An exponent so large or so
small that it alone decides is not computed with. -/
def ofDecimal (negative : Bool) (digits : Nat) (exponent : Int) : Binary64 :=
  if digits == 0 then zero negative
  else
    let magnitude := ((Nat.toDigits 10 digits).length : Int) + exponent
    if 320 < magnitude then .infinite negative
    else if magnitude < -340 then zero negative
    else if exponent < 0 then ofRatio negative digits (Nat.pow 10 exponent.natAbs)
    else ofRatio negative (digits * Nat.pow 10 exponent.natAbs) 1

def ofNat (number : Nat) : Binary64 := ofRatio false number 1

def ratio (significand : Nat) (exponent : Int) : Nat × Nat :=
  if exponent < 0 then (significand, 1 <<< exponent.natAbs)
  else (significand <<< exponent.natAbs, 1)

def signed (negative : Bool) (significand : Nat) : Int :=
  if negative then -(significand : Int) else significand

def times : Binary64 → Binary64 → Binary64
  | .nan, _ | _, .nan => .nan
  | .finite left small leftExponent, .finite right other rightExponent =>
      let (numerator, denominator) := ratio (small * other) (leftExponent + rightExponent)
      ofRatio (left != right) numerator denominator
  | .infinite left, .finite right significand _
  | .finite left significand _, .infinite right =>
      if significand == 0 then .nan else .infinite (left != right)
  | .infinite left, .infinite right => .infinite (left != right)

def plus : Binary64 → Binary64 → Binary64
  | .nan, _ | _, .nan => .nan
  | .finite left small leftExponent, .finite right other rightExponent =>
      let least := min leftExponent rightExponent
      let sum := signed left (small <<< (leftExponent - least).natAbs)
        + signed right (other <<< (rightExponent - least).natAbs)
      let negative := if sum == 0 then left && right else sum < 0
      let (numerator, denominator) := ratio sum.natAbs least
      ofRatio negative numerator denominator
  | .infinite left, .finite _ _ _ => .infinite left
  | .finite _ _ _, .infinite right => .infinite right
  | .infinite left, .infinite right => if left == right then .infinite left else .nan

def negate : Binary64 → Binary64
  | .nan => .nan
  | .infinite negative => .infinite !negative
  | .finite negative significand exponent => .finite (!negative) significand exponent

def isZero : Binary64 → Bool
  | .finite _ significand _ => significand == 0
  | _ => false

def toInt? : Binary64 → Option Int
  | .finite negative significand exponent =>
      let (numerator, denominator) := ratio significand exponent
      if numerator % denominator == 0 then
        let magnitude : Int := numerator / denominator
        some (if negative then -magnitude else magnitude)
      else none
  | _ => none

/-- Equality of numbers: zeros of both signs are equal. -/
def same (left right : Binary64) : Bool :=
  left == right || (left.isZero && right.isZero)

end Binary64

end DriverKit.Decimal
