import DriverKit.Decimal.Rounded
import DriverKit.Misuse

/-!
# Layout of fields

How a text or a number is laid out in a field: filled up to a width on one side or both, with a
sign, in a base or with decimal places, with marks between groups of digits. Texts and numbers
share one notation for layouts, but each refuses the parts that make no sense for it.
-/

namespace DriverKit.Template

inductive Alignment where
  | left
  | right
  | center
  /-- The filling stands between the sign and the digits. -/
  | afterSign
deriving DecidableEq, Repr

/-- How a layout treats the sign of a number that is not negative. -/
inductive SignRule where
  | unsaid
  | plus
  | space
  | minusOnly
deriving DecidableEq, Repr

inductive Grouping where
  | none
  | comma
  | underscore
deriving DecidableEq, Repr

/-- A layout of a field. -/
structure FieldLayout where
  fill : Char
  alignment : Alignment
  sign : SignRule
  positiveZero : Bool
  alternate : Bool
  width : Nat
  grouping : Grouping
  precision : Option Nat
  kind : Option Char
deriving DecidableEq, Repr

namespace FieldLayout

def alignmentOf? : Char → Option Alignment
  | '<' => some .left
  | '>' => some .right
  | '^' => some .center
  | '=' => some .afterSign
  | _ => none

def readAlignment : List Char → (Option Char × Option Alignment) × List Char
  | first :: second :: rest =>
      match alignmentOf? second, alignmentOf? first with
      | some alignment, _ => ((some first, some alignment), rest)
      | none, some alignment => ((none, some alignment), second :: rest)
      | none, none => ((none, none), first :: second :: rest)
  | [only] =>
      match alignmentOf? only with
      | some alignment => ((none, some alignment), [])
      | none => ((none, none), [only])
  | [] => ((none, none), [])

def readSign : List Char → SignRule × List Char
  | '+' :: rest => (.plus, rest)
  | ' ' :: rest => (.space, rest)
  | '-' :: rest => (.minusOnly, rest)
  | characters => (.unsaid, characters)

def readMark (mark : Char) : List Char → Bool × List Char
  | c :: rest => if c == mark then (true, rest) else (false, c :: rest)
  | [] => (false, [])

def greatestNumber : Nat := 1 <<< 63 - 1

/-- Reads digits of any script; the outer option is empty if their number is too large, the inner
one if there are none. -/
def readDigits (characters : List Char) : Option (Option Nat × List Char) :=
  let (digits, rest) := characters.span Text.isDigit
  let value := (digits.filterMap Text.digitValue?).foldl (fun n digit => 10 * n + digit) 0
  if digits.isEmpty then some (none, rest)
  else if greatestNumber < value then none
  else some (some value, rest)

/-- Reads the mark between groups; two marks are refused. -/
def readGrouping : List Char → Option (Grouping × List Char)
  | ',' :: '_' :: _ => none
  | '_' :: ',' :: _ => none
  | ',' :: rest => some (.comma, rest)
  | '_' :: rest => some (.underscore, rest)
  | characters => some (.none, characters)

def readPrecision : List Char → Option (Option Nat × List Char)
  | '.' :: rest => do
      match ← readDigits rest with
      | (some precision, rest) => some (some precision, rest)
      | (none, _) => none
  | characters => some (none, characters)

def allowsGrouping (grouping : Grouping) (kind : Option Char) (usual : Char) : Bool :=
  match grouping with
  | .none => true
  | .comma => "defgEG%F".toList.contains (kind.getD usual)
  | .underscore => "defgEG%FboxX".toList.contains (kind.getD usual)

/-- Reads a layout for values that usually stand on the given side and are of the given kind. -/
def read? (usualSide : Alignment) (usualKind : Char) (characters : List Char) :
    Option FieldLayout := do
  let ((fill, alignment), rest) := readAlignment characters
  let (sign, rest) := readSign rest
  let (positiveZero, rest) := readMark 'z' rest
  let (alternate, rest) := readMark '#' rest
  let (zeros, rest) := if fill.isNone then readMark '0' rest else (false, rest)
  let (width, rest) ← readDigits rest
  let (grouping, rest) ← readGrouping rest
  let (precision, rest) ← readPrecision rest
  let kind ←
    match rest with
    | [] => some none
    | [kind] => some (some kind)
    | _ => none
  if !allowsGrouping grouping kind usualKind then none
  else
    let side :=
      alignment.getD (if zeros && usualSide == .right then .afterSign else usualSide)
    some {
      fill := fill.getD (if zeros then '0' else ' ')
      alignment := side
      sign := sign
      positiveZero := positiveZero
      alternate := alternate
      width := width.getD 0
      grouping := grouping
      precision := precision
      kind := kind }

/-- Fills a value up to the width; `head` is the part that filling after the sign leaves in
front. -/
def place (layout : FieldLayout) (head body : List Char) : List Char :=
  let missing := layout.width - (head.length + body.length)
  let fill (count : Nat) := List.replicate count layout.fill
  match layout.alignment with
  | .left => head ++ body ++ fill missing
  | .right => fill missing ++ head ++ body
  | .center => fill (missing / 2) ++ head ++ body ++ fill (missing - missing / 2)
  | .afterSign => head ++ fill missing ++ body

/-! ## Texts -/

/-- Lays out a text. A precision cuts it off; signs, number marks and other kinds are refused. -/
def layText (characters text : List Char) : Except Misuse (List Char) :=
  if characters.isEmpty then .ok text
  else
    match read? .left 's' characters with
    | none => .error .malformedTemplate
    | some layout =>
        if layout.kind.getD 's' != 's' || layout.sign != .unsaid || layout.positiveZero
            || layout.alternate || layout.alignment == .afterSign then
          .error .malformedTemplate
        else
          .ok (layout.place [] (text.take (layout.precision.getD text.length)))

/-! ## Groups of digits -/

/-- Groups digits from the right, given in reverse, and adds zeros until the groups and the marks
between them reach a width. -/
def groupWithin (size : Nat) (mark : Char) : Nat → List Char → Int → List Char
  | 0, digits, _ => digits
  | fuel + 1, digits, width =>
      let count := min size (max (max digits.length width.toNat) 1)
      let here := digits.take count
      let group := here ++ List.replicate (count - here.length) '0'
      let rest := digits.drop count
      if rest.isEmpty && width - count ≤ 0 then group
      else group ++ mark :: groupWithin size mark fuel rest (width - count - 1)

def groupDigits (size : Nat) (mark : Option Char) (digits : List Char) (width : Int) :
    List Char :=
  match mark with
  | some mark =>
      (groupWithin size mark (digits.length + width.toNat + 1) digits.reverse width).reverse
  | none => List.replicate (width.toNat - digits.length) '0' ++ digits

def signOf (rule : SignRule) (negative : Bool) : List Char :=
  if negative then ['-']
  else
    match rule with
    | .plus => ['+']
    | .space => [' ']
    | _ => []

/-- Lays out a number: what stands before its digits, the digits, of which so many form a group,
and what stands after them. -/
def layParts (layout : FieldLayout) (size : Nat) (head digits tail : List Char) : List Char :=
  let separator :=
    match layout.grouping with
    | .none => none
    | .comma => some ','
    | .underscore => some '_'
  let width : Int :=
    if layout.fill == '0' && layout.alignment == .afterSign then
      (layout.width : Int) - head.length - tail.length
    else 0
  let grouped := if digits.isEmpty then [] else groupDigits size separator digits width
  layout.place head (grouped ++ tail)

def layDigits (layout : FieldLayout) (base : Nat) (mark : List Char) (digits : List Char)
    (negative : Bool) : List Char :=
  let head := signOf layout.sign negative ++ (if layout.alternate then mark else [])
  layout.layParts (if base == 10 then 3 else 4) head digits []

/-! ## Decimal places -/

def placeKinds : List Char := "eEfFgG%".toList

def usualPrecision : Nat := 6

def greatestPrecision : Nat := 1 <<< 31 - 1

/-- The digits of a finite size, rounded as a kind asks for. -/
def rounded (layout : FieldLayout) (kind : Char) (significand : Nat) (exponent : Int) :
    Decimal.Rounded :=
  let (numerator, denominator) := Decimal.Binary64.ratio significand exponent
  let precision := layout.precision.getD usualPrecision
  if kind == 'e' then .scientific numerator denominator precision
  else if kind == 'g' then
    let decimal := Decimal.Rounded.general numerator denominator precision
    if layout.alternate then decimal else decimal.withoutZeros
  else .positional numerator denominator precision

/-- Lays out a whole number with decimal places: as the nearest double precision number, written
out, with an exponent, or in the form that is usual for its size; as a percentage it is multiplied
by a hundred first. -/
def layPlaces (layout : FieldLayout) (kind : Char) (number : Int) :
    Except Misuse (List Char) :=
  if greatestPrecision < layout.precision.getD usualPrecision then .error .malformedTemplate
  else
    let nearest := Decimal.Binary64.ofNat number.natAbs
    let size := if kind == '%' then nearest.times (.ofNat 100) else nearest
    let head := signOf layout.sign (number < 0)
    let sign := if kind == '%' then ['%'] else []
    match nearest, size with
    | .finite _ _ _, .finite _ significand exponent =>
        let decimal := layout.rounded kind.toLower significand exponent
        let mark := if kind.isUpper then 'E' else 'e'
        .ok (layout.layParts 3 head decimal.whole
          (decimal.tail layout.alternate mark ++ sign))
    | .finite _ _ _, _ => .ok (layout.layParts 3 head [] ("inf".toList ++ sign))
    | _, _ => .error .tooLarge

/-! ## Whole numbers -/

def layCharacter (layout : FieldLayout) (code : Int) : Except Misuse (List Char) :=
  if layout.sign != .unsaid || layout.alternate then .error .malformedTemplate
  else if 0 ≤ code && code < 0x110000 then .ok (layout.place [] [Char.ofNat code.natAbs])
  else .error .tooLarge

/-- Lays out a whole number as one: a precision is refused, and so is a kind that is not for whole
numbers. A number of the character kind stands for the character at its code point. -/
def layWhole (layout : FieldLayout) (kind : Char) (number : Int) : Except Misuse (List Char) :=
  if layout.precision.isSome || layout.positiveZero then .error .malformedTemplate
  else
    let digits (base : Nat) := Text.digitsIn base number.natAbs
    let negative := number < 0
    match kind with
    | 'd' | 'n' => .ok (layout.layDigits 10 [] (digits 10) negative)
    | 'b' => .ok (layout.layDigits 2 ['0', 'b'] (digits 2) negative)
    | 'o' => .ok (layout.layDigits 8 ['0', 'o'] (digits 8) negative)
    | 'x' => .ok (layout.layDigits 16 ['0', 'x'] (digits 16) negative)
    | 'X' => .ok (layout.layDigits 16 ['0', 'X'] ((digits 16).map Char.toUpper) negative)
    | 'c' => layout.layCharacter number
    | _ => .error .malformedTemplate

def layNumber (characters : List Char) (number : Int) : Except Misuse (List Char) :=
  if characters.isEmpty then .ok (Text.writeInteger number).toList
  else
    match read? .right 'd' characters with
    | none => .error .malformedTemplate
    | some layout =>
        let kind := layout.kind.getD 'd'
        if placeKinds.contains kind then layout.layPlaces kind number
        else layout.layWhole kind number

end FieldLayout

end DriverKit.Template
