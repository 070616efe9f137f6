import DriverKit.Decimal.Binary64
import DriverKit.Text.Case
import DriverKit.Text.Numeral

/-!
# Reading decimals

Double precision numbers read from text: padding, a sign, digits of any script with at most one
point among them, and an exponent of ten; or the words for what is no finite number.
-/

namespace DriverKit.Decimal.Binary64

def readExponent : List Char → Option Int
  | [] => some 0
  | mark :: rest =>
      if mark != 'e' && mark != 'E' then none
      else
        let (negative, digits) := Text.splitSign rest
        if digits.isEmpty then none
        else do
          let values ← digits.mapM Text.digitValue?
          let magnitude : Nat := values.foldl (fun number value => 10 * number + value) 0
          some (if negative then -(magnitude : Int) else magnitude)

def readUnsigned (negative : Bool) (characters : List Char) : Option Binary64 :=
  let word := Text.lower (String.ofList characters)
  if word == "inf" || word == "infinity" then some (.infinite negative)
  else if word == "nan" then some .nan
  else
    let (whole, rest) := characters.span Text.isDigit
    let (fraction, rest) :=
      match rest with
      | '.' :: rest => rest.span Text.isDigit
      | _ => ([], rest)
    if whole.isEmpty && fraction.isEmpty then none
    else do
      let exponent ← readExponent rest
      let values ← (whole ++ fraction).mapM Text.digitValue?
      let digits := values.foldl (fun number value => 10 * number + value) 0
      some (ofDecimal negative digits (exponent - fraction.length))

def read? (characters : List Char) : Option Binary64 :=
  let (negative, rest) := Text.splitSign (Text.unpadded characters)
  readUnsigned negative rest

end DriverKit.Decimal.Binary64
