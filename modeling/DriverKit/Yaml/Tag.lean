import DriverKit.Text.Digit
import DriverKit.Text.Pieces

/-!
# Tags

The kinds of values in a document. A value is given its kind by a tag; a plain text without one
is given it by its form: `12` is a whole number, `1.5` a real one, `yes` a truth value,
`2001-01-01` a day, and what has no other form is a text.
-/

namespace DriverKit.Yaml

inductive Tag where
  | null
  | bool
  | int
  | real
  | bytes
  | timestamp
  | text
  | list
  | map
  | set
  /-- A list of pairs whose keys are distinct. -/
  | orderedMap
  /-- A list of pairs. -/
  | pairs
  /-- The key that merges other maps into a map. -/
  | merge
  /-- The key of the value that stands for a whole map. -/
  | default
  /-- A kind that has no values here. -/
  | other
deriving DecidableEq, Repr

namespace Tag

def usualStart : String := "tag:yaml.org,2002:"

def ofName (name : String) : Tag :=
  if !usualStart.toList.isPrefixOf name.toList then .other
  else
    match String.ofList (name.toList.drop usualStart.length) with
    | "null" => .null
    | "bool" => .bool
    | "int" => .int
    | "float" => .real
    | "binary" => .bytes
    | "timestamp" => .timestamp
    | "str" => .text
    | "seq" => .list
    | "map" => .map
    | "set" => .set
    | "omap" => .orderedMap
    | "pairs" => .pairs
    | "merge" => .merge
    | "value" => .default
    | _ => .other

/-! ## Forms of plain texts -/

def truthWords : List String :=
  ["yes", "Yes", "YES", "no", "No", "NO", "true", "True", "TRUE", "false", "False", "FALSE",
   "on", "On", "ON", "off", "Off", "OFF"]

def nullWords : List String := ["", "~", "null", "Null", "NULL"]

open DriverKit.Text (isPlainDigit isHexDigit)

def isDigitOrMark (c : Char) : Bool := isPlainDigit c || c == '_'

def isRun (test : Char → Bool) (characters : List Char) : Bool :=
  !characters.isEmpty && characters.all test

def unsigned : List Char → List Char
  | '-' :: rest => rest
  | '+' :: rest => rest
  | characters => characters

def isDigits : List Char → Bool
  | c :: rest => isPlainDigit c && rest.all isDigitOrMark
  | [] => false

def isDigitsNotZero : List Char → Bool
  | c :: rest => isPlainDigit c && c != '0' && rest.all isDigitOrMark
  | [] => false

def isBelowSixty : List Char → Bool
  | [digit] => isPlainDigit digit
  | [ten, digit] => '0' ≤ ten && ten ≤ '5' && isPlainDigit digit
  | _ => false

/-- The form of whole numbers: in base two, eight, ten or sixteen, or with parts of sixtieths. -/
def isInt (characters : List Char) : Bool :=
  let digits := unsigned characters
  let based :=
    match digits with
    | '0' :: 'b' :: rest => isRun (fun c => c == '0' || c == '1' || c == '_') rest
    | '0' :: 'x' :: rest => isRun (fun c => isHexDigit c || c == '_') rest
    | ['0'] => true
    | '0' :: rest => isRun (fun c => ('0' ≤ c && c ≤ '7') || c == '_') rest
    | _ => isDigitsNotZero digits
  based
    || (match Text.pieces ':' digits with
        | first :: second :: rest =>
            isDigitsNotZero first && (second :: rest).all isBelowSixty
        | _ => false)

def isExponent : List Char → Bool
  | [] => true
  | mark :: sign :: digits =>
      (mark == 'e' || mark == 'E') && (sign == '+' || sign == '-') && isRun isPlainDigit digits
  | _ => false

/-- The form of real numbers: with a point, or with parts of sixtieths and a point, or one of the
words for what is no finite number. -/
def isReal (characters : List Char) : Bool :=
  let body := unsigned characters
  let afterPoint (rest : List Char) : Bool := isExponent (rest.dropWhile isDigitOrMark)
  let (whole, rest) := body.span (· != '.')
  let pointed :=
    match rest with
    | _ :: rest =>
        (isDigits whole && afterPoint rest)
          || (match Text.pieces ':' whole with
              | first :: second :: others =>
                  isDigits first && (second :: others).all isBelowSixty && rest.all isDigitOrMark
              | _ => false)
    | [] => false
  let startsWithPoint :=
    match characters with
    | '.' :: digit :: rest => isPlainDigit digit && afterPoint rest
    | _ => false
  pointed || startsWithPoint
    || [".inf", ".Inf", ".INF"].contains (String.ofList body)
    || [".nan", ".NaN", ".NAN"].contains (String.ofList characters)

/-! ## Days and moments -/

/-- The parts of a moment as they are written. -/
structure MomentParts where
  year : List Char
  month : List Char
  day : List Char
  /-- Hour, minute, second and the digits after the point. -/
  time : Option (List Char × List Char × List Char × List Char)
  /-- Whether the clock is behind, and by how many hours and minutes. -/
  offset : Option (Bool × List Char × List Char)
deriving DecidableEq, Repr

def isShortNumber (digits : List Char) : Bool :=
  isRun isPlainDigit digits && digits.length ≤ 2

def isTwoDigits (digits : List Char) : Bool :=
  digits.all isPlainDigit && digits.length == 2

def readOffset (characters : List Char) : Option (Option (Bool × List Char × List Char)) :=
  let signed (behind : Bool) (rest : List Char) :=
    match Text.pieces ':' rest with
    | [hours] => if isShortNumber hours then some (some (behind, hours, [])) else none
    | [hours, minutes] =>
        if isShortNumber hours && isTwoDigits minutes then some (some (behind, hours, minutes))
        else none
    | _ => none
  if characters.isEmpty then some none
  else
    match characters.dropWhile fun c => c == ' ' || c == '\t' with
    | ['Z'] => some (some (false, ['0'], []))
    | '+' :: rest => signed false rest
    | '-' :: rest => signed true rest
    | _ => none

def readTime (characters : List Char) :
    Option ((List Char × List Char × List Char × List Char)
      × Option (Bool × List Char × List Char)) := do
  let (hour, rest) := characters.span isPlainDigit
  let (minute, rest) := (rest.drop 1).span isPlainDigit
  let (second, rest) := (rest.drop 1).span isPlainDigit
  let marks := characters.filter (· == ':')
  let (fraction, rest) :=
    match rest with
    | '.' :: rest => rest.span isPlainDigit
    | _ => ([], rest)
  let shape := hour ++ ':' :: minute ++ ':' :: second
  if isShortNumber hour && isTwoDigits minute && isTwoDigits second
      && 2 ≤ marks.length && shape.isPrefixOf characters then
    let offset ← readOffset rest
    some ((hour, minute, second, fraction), offset)
  else none

def readMoment (characters : List Char) : Option MomentParts := do
  let (year, rest) := characters.span isPlainDigit
  let (month, rest') := (rest.drop 1).span isPlainDigit
  let (day, rest'') := (rest'.drop 1).span isPlainDigit
  let shape := year ++ '-' :: month ++ '-' :: day
  if year.length == 4 && isShortNumber month && isShortNumber day
      && shape.isPrefixOf characters then
    match rest'' with
    | [] => some ⟨year, month, day, none, none⟩
    | c :: time =>
        let time :=
          if c == 'T' || c == 't' then some time
          else if c == ' ' || c == '\t' then
            some (time.dropWhile fun c => c == ' ' || c == '\t')
          else none
        let (clock, offset) ← readTime (← time)
        some ⟨year, month, day, some clock, offset⟩
  else none

def isMoment (characters : List Char) : Bool :=
  match readMoment characters with
  | some parts =>
      parts.time.isSome || (isTwoDigits parts.month && isTwoDigits parts.day)
  | none => false

def withoutLastBreak (characters : List Char) : List Char :=
  if characters.getLast? == some '\n' then characters.dropLast else characters

/-- The kind of a plain text, by its form. A line feed at its end does not count. -/
def ofPlain (text : String) : Tag :=
  let characters := withoutLastBreak text.toList
  let word := String.ofList characters
  if truthWords.contains word then .bool
  else if isReal characters then .real
  else if isInt characters then .int
  else if word == "<<" then .merge
  else if nullWords.contains word && text != "\n" then .null
  else if isMoment characters then .timestamp
  else if word == "=" then .default
  else if ["!", "&", "*"].contains word then .other
  else .text

end Tag

end DriverKit.Yaml
