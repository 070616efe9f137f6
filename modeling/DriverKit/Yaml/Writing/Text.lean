import DriverKit.Text.CodePoint
import DriverKit.Text.Numeral
import DriverKit.Yaml.Writing.Style

/-!
# Texts as they are written

The characters of a text in each style. A text that runs beyond column 80 goes on in a new line at
the next place where a break does not change it: at a single blank, or after a backslash.
-/

namespace DriverKit.Yaml

/-- The column after which a text goes on in a new line. -/
def widest : Nat := 80

/-- Where a text is written. -/
structure Spot where
  /-- The column at which it starts. -/
  column : Nat
  /-- The indentation of its further lines. -/
  indent : Nat
  /-- Whether it may have further lines. -/
  mayBreak : Bool

def newLine (indent : Nat) : List Char := '\n' :: List.replicate indent ' '

/-! ## Plain texts and texts between single marks -/

/-- A part of a text: a run of blanks, a run of breaks, or a run of other characters. -/
inductive Run where
  | blanks (count : Nat)
  | breaks (count : Nat)
  | word (characters : List Char)
deriving DecidableEq, Repr

def Run.add (c : Char) (runs : List Run) : List Run :=
  if c == ' ' then
    match runs with
    | .blanks count :: rest => .blanks (count + 1) :: rest
    | rest => .blanks 1 :: rest
  else if c == '\n' then
    match runs with
    | .breaks count :: rest => .breaks (count + 1) :: rest
    | rest => .breaks 1 :: rest
  else
    match runs with
    | .word characters :: rest => .word (c :: characters) :: rest
    | rest => .word [c] :: rest

def runsOf (characters : List Char) : List Run := characters.foldr Run.add []

/-- Writes the parts of a text from a column on. A single blank within the text becomes a new line
when it comes after the last column, and one break more than those of the text is written. -/
def writeRuns (spot : Spot) : Bool → Nat → List Run → List Char
  | _, _, [] => []
  | _, column, .word characters :: rest =>
      characters ++ writeRuns spot false (column + characters.length) rest
  | first, column, .blanks count :: rest =>
      if count == 1 && widest < column && spot.mayBreak && !first && !rest.isEmpty then
        newLine spot.indent ++ writeRuns spot false spot.indent rest
      else List.replicate count ' ' ++ writeRuns spot false (column + count) rest
  | _, _, .breaks count :: rest =>
      List.replicate count '\n' ++ newLine spot.indent ++ writeRuns spot false spot.indent rest

def writePlain (spot : Spot) (characters : List Char) : List Char :=
  writeRuns spot true spot.column (runsOf characters)

/-- A text between single marks, in which such a mark is written twice. -/
def writeSingle (spot : Spot) (characters : List Char) : List Char :=
  let doubled := characters.flatMap fun c => if c == '\'' then ['\'', '\''] else [c]
  '\'' :: writeRuns spot true (spot.column + 1) (runsOf doubled) ++ ['\'']

/-! ## Texts between double marks -/

/-- The letter after the backslash, for characters that have one. -/
def escapeLetter? : Char → Option Char
  | '\x00' => some '0'
  | '\x07' => some 'a'
  | '\x08' => some 'b'
  | '\t' => some 't'
  | '\n' => some 'n'
  | '\x0B' => some 'v'
  | '\x0C' => some 'f'
  | '\r' => some 'r'
  | '\x1B' => some 'e'
  | '"' => some '"'
  | '\\' => some '\\'
  | '\u0085' => some 'N'
  | '\u00A0' => some '_'
  | '\u2028' => some 'L'
  | '\u2029' => some 'P'
  | _ => none

/-- A code point in digits of base sixteen, with capital letters. -/
def codeDigits (width code : Nat) : List Char :=
  (Text.hexDigits width code).map Char.toUpper

/-- What stands for a character between double marks, unless it stands for itself. -/
def escape? (c : Char) : Option (List Char) :=
  match escapeLetter? c with
  | some letter => some ['\\', letter]
  | none =>
      let code := Text.codePoint c
      if 0x20 ≤ code && code ≤ 0x7E then none
      else if code < 0x100 then some ('\\' :: 'x' :: codeDigits 2 code)
      else if code < 0x10000 then some ('\\' :: 'u' :: codeDigits 4 code)
      else some ('\\' :: 'U' :: codeDigits 8 code)

/-- A new line between double marks: a backslash before the break, and another one before a blank
that would be lost at the start of the line. -/
def foldedLine (indent : Nat) (blankFollows : Bool) : List Char :=
  '\\' :: newLine indent ++ (if blankFollows then ['\\'] else [])

/-- The column at which a new line between double marks goes on. -/
def foldedColumn (indent : Nat) (blankFollows : Bool) : Nat :=
  if blankFollows then indent + 1 else indent

/-- Writes characters between double marks from a column on. A new line may start before a blank,
and before or after an escape, but neither at the start nor at the end of the text. -/
def writeEscaped (spot : Spot) : Bool → Bool → Nat → List Char → List Char
  | _, _, _, [] => []
  | first, afterEscape, column, c :: rest =>
      let within := spot.mayBreak && !first && !rest.isEmpty
      match escape? c with
      | some escape =>
          let column := column + escape.length
          if within && widest + 1 < column then
            let blank := rest.head? == some ' '
            escape ++ foldedLine spot.indent blank
              ++ writeEscaped spot false true (foldedColumn spot.indent blank) rest
          else escape ++ writeEscaped spot false true column rest
      | none =>
          let blank := c == ' '
          if within && (blank || afterEscape) && widest < column then
            foldedLine spot.indent blank
              ++ c :: writeEscaped spot false false (foldedColumn spot.indent blank + 1) rest
          else c :: writeEscaped spot false false (column + 1) rest

def writeDouble (spot : Spot) (characters : List Char) : List Char :=
  '"' :: writeEscaped spot true false (spot.column + 1) characters ++ ['"']

def Style.write (style : Style) (spot : Spot) (text : String) : List Char :=
  match style with
  | .plain => writePlain spot text.toList
  | .single => writeSingle spot text.toList
  | .double => writeDouble spot text.toList

end DriverKit.Yaml
