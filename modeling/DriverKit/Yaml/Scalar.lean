import DriverKit.Datum.Basic
import DriverKit.Decimal.Reading
import DriverKit.Text.Base64
import DriverKit.Text.Case
import DriverKit.Yaml.Tag
import DriverKit.Yaml.Token.Basic

/-!
# Scalars of documents

The value of a text with a tag. A tag that is written out may not fit its text; then the value
makes no sense, and what exactly goes wrong depends on the kind.
-/

namespace DriverKit.Yaml.Tag

/-- Tells whether a kind has values without parts. The marks for merging and for standing for a
whole map are no values. -/
def hasTexts : Tag → Bool
  | .null | .bool | .int | .real | .bytes | .timestamp | .text => true
  | _ => false

/-! ## Truth values and bytes -/

/-- The truth value of a word in any letter case. -/
def readTruth (text : String) : Except Fault Scalar :=
  let word := Text.lower text
  if word == "yes" || word == "true" || word == "on" then .ok (.bool true)
  else if word == "no" || word == "false" || word == "off" then .ok (.bool false)
  else .error (.misuse (.absentKey (.text word)))

def readBytes (text : String) : Except Fault Scalar :=
  if text.toList.all (·.toNat < 0x80) then
    match Text.readBase64? text.toList with
    | some octets => .ok (.bytes octets)
    | none => .error .malformed
  else .error .malformed

/-! ## Numbers -/

/-- The characters of a numeral: underscores mean nothing. -/
def numeral (text : String) : List Char := text.toList.filter (· != '_')

def wholeIn (base : Nat) (characters : List Char) : Except Fault Int :=
  match Text.readInteger? base characters with
  | some number => .ok number
  | none => .error (.misuse .malformedNumeral)

def readMagnitude (characters : List Char) : Except Fault Int :=
  match characters with
  | [] => .error (.misuse .emptyNumeral)
  | ['0'] => .ok 0
  | '0' :: 'b' :: rest => wholeIn 2 rest
  | '0' :: 'x' :: rest => wholeIn 16 rest
  | '0' :: _ => wholeIn 8 characters
  | _ =>
      if characters.contains ':' then do
        let parts ← (Text.pieces ':' characters).mapM (wholeIn 10)
        return parts.foldl (fun number part => 60 * number + part) 0
      else wholeIn 10 characters

def readInt (text : String) : Except Fault Scalar := do
  let (negative, rest) := Text.splitSign (numeral text)
  let magnitude ← readMagnitude rest
  return .int (if negative then -magnitude else magnitude)

def realIn (characters : List Char) : Except Fault Decimal.Binary64 :=
  match Decimal.Binary64.read? characters with
  | some number => .ok number
  | none => .error (.misuse .malformedNumeral)

/-- The sum of parts that are sixtieths of each other, the smallest part first. -/
def sumOfSixtieths : List Decimal.Binary64 → Nat → Decimal.Binary64 →
    Except Fault Decimal.Binary64
  | [], _, sum => .ok sum
  | part :: rest, weight, sum =>
      match Decimal.Binary64.ofNat weight with
      | .infinite _ => .error (.misuse .tooLarge)
      | factor => sumOfSixtieths rest (60 * weight) (sum.plus (part.times factor))

def readSize (characters : List Char) : Except Fault Decimal.Binary64 :=
  if characters == ".inf".toList then .ok (.infinite false)
  else if characters.contains ':' then do
    let parts ← (Text.pieces ':' characters).mapM realIn
    sumOfSixtieths parts.reverse 1 (.zero false)
  else realIn characters

/-- The real number of a text. The words for what is no number all have one origin. -/
def readReal (text : String) : Except Fault Scalar := do
  let characters := (Text.lower (String.ofList (numeral text))).toList
  if characters.isEmpty then .error (.misuse .emptyNumeral)
  else
    let (negative, rest) := Text.splitSign characters
    if rest == ".nan".toList then return .nan 0
    else
      let size ← readSize rest
      return .real (if negative then size.negate else size)

/-! ## Days and moments -/

def micros (digits : List Char) : Nat :=
  let kept := digits.take 6
  Text.plainNumber (kept ++ List.replicate (6 - kept.length) '0')

/-- The minutes that a clock is ahead; a clock is less than a day ahead or behind. -/
def readAhead (behind : Bool) (hours minutes : List Char) : Except Fault Int :=
  let distance : Int := 60 * Text.plainNumber hours + Text.plainNumber minutes
  if 1440 ≤ distance then .error (.misuse .impossibleMoment)
  else .ok (if behind then -distance else distance)

def readMomentOf (text : String) : Except Fault Scalar :=
  match readMoment (withoutLastBreak text.toList) with
  | none => .error (.misuse .notMoment)
  | some parts => do
      let number := Text.plainNumber
      let date : Date := ⟨number parts.year, number parts.month, number parts.day⟩
      match parts.time with
      | none =>
          if date.isValid then return .date date else .error (.misuse .impossibleMoment)
      | some (hour, minute, second, fraction) =>
          let offset ← parts.offset.mapM fun (behind, hours, minutes) =>
            readAhead behind hours minutes
          let moment : Timestamp :=
            ⟨date, number hour, number minute, number second, micros fraction, offset⟩
          if moment.isValid then return .timestamp moment
          else .error (.misuse .impossibleMoment)

/-! ## All kinds -/

def readText (tag : Tag) (text : String) : Except Fault Scalar :=
  match tag with
  | .null => .ok .null
  | .bool => readTruth text
  | .int => readInt text
  | .real => readReal text
  | .bytes => readBytes text
  | .timestamp => readMomentOf text
  | .text => .ok (.text text)
  | .list | .map | .set | .orderedMap | .pairs | .merge | .default | .other => .error .malformed

end DriverKit.Yaml.Tag
