import DriverKit.Text.CodePoint
import DriverKit.Text.Numeral
import DriverKit.Yaml.Cursor
import DriverKit.Yaml.Token.Basic

/-!
# Texts in documents

The forms in which a text stands in a document: plain, between marks, or as a block of lines. Where
a text runs over several lines, the breaks fold: a single one is a space, and of several the first
is left out.
-/

namespace DriverKit.Yaml

namespace Cursor

/-- A break followed by others, folded. -/
def folded (first others : List Char) : List Char :=
  if first != ['\n'] then first ++ others
  else if others.isEmpty then [' ']
  else others

/-! ## Plain texts -/

/-- The number of characters that a plain text goes on for on its line. -/
def plainLength (inFlow : Bool) : List Char → Nat
  | [] => 0
  | c :: rest =>
      if isGap c then 0
      else if c == ':'
          && nextIs (fun d => isGap d || (inFlow && isOneOf ",[]\x7b\x7d" d)) rest.head? then 0
      else if inFlow && isOneOf ",?[]\x7b\x7d" c then 0
      else plainLength inFlow rest + 1

/-- The breaks after the first one that a plain text runs over, up to a line that starts or ends a
document. -/
def plainBreaks : Nat → Cursor → Option (List Char) × Cursor
  | 0, cursor => (none, cursor)
  | fuel + 1, cursor =>
      if cursor.isDocumentMarker then (none, cursor)
      else
        let cursor := cursor.skip (· == ' ')
        match cursor.lineBreak with
        | ([], cursor) => (some [], cursor)
        | (first, cursor) =>
            let (others, cursor) := plainBreaks fuel cursor
            (others.map (first ++ ·), cursor)

/-- What stands between two runs of a plain text, and whether a line has ended there. Nothing
stands there if the text cannot go on. -/
def plainSpaces (cursor : Cursor) : List Char × Bool × Cursor :=
  let (spaces, cursor) := cursor.span (· == ' ')
  match cursor.lineBreak with
  | ([], _) => (spaces, false, cursor)
  | (first, cursor) =>
      match plainBreaks (cursor.rest.length + 1) cursor with
      | (some others, cursor) => (folded first others, true, cursor)
      | (none, cursor) => ([], true, cursor)

/-- Reads the runs of a plain text, as many as the fuel says; `before` is what stands before the
next run, and `lineEnded` tells whether a line has ended since the last one. -/
def plainRuns (inFlow : Bool) (indent : Int) :
    Nat → List Char → Bool → Cursor → List Char × Bool × Cursor
  | 0, _, lineEnded, cursor => ([], lineEnded, cursor)
  | fuel + 1, before, lineEnded, cursor =>
      let length := plainLength inFlow cursor.rest
      if cursor.at? '#' || length == 0 then ([], lineEnded, cursor)
      else
        let run := cursor.rest.take length
        let (spaces, ended, cursor) := (cursor.advanceBy length).plainSpaces
        if spaces.isEmpty || cursor.at? '#' || (!inFlow && cursor.column < indent) then
          (before ++ run, ended, cursor)
        else
          let (others, lineEnded, cursor) := plainRuns inFlow indent fuel spaces ended cursor
          (before ++ run ++ others, lineEnded, cursor)

/-- Reads a plain text, and tells whether a line has ended after it. -/
def plainText (cursor : Cursor) (inFlow : Bool) (indent : Int) : String × Bool × Cursor :=
  let (characters, lineEnded, cursor) :=
    plainRuns inFlow indent (cursor.rest.length + 1) [] false cursor
  (String.ofList characters, lineEnded, cursor)

/-! ## Texts between marks -/

/-- What a single character after a backslash stands for. -/
def escapeOf? : Char → Option Char
  | '0' => some '\x00'
  | 'a' => some '\x07'
  | 'b' => some '\x08'
  | 't' => some '\t'
  | '\t' => some '\t'
  | 'n' => some '\n'
  | 'v' => some '\x0B'
  | 'f' => some '\x0C'
  | 'r' => some '\r'
  | 'e' => some '\x1B'
  | ' ' => some ' '
  | '"' => some '"'
  | '\\' => some '\\'
  | '/' => some '/'
  | 'N' => some '\u0085'
  | '_' => some '\u00A0'
  | 'L' => some '\u2028'
  | 'P' => some '\u2029'
  | _ => none

/-- How many digits give a code point after a character. -/
def codeWidth? : Char → Option Nat
  | 'x' => some 2
  | 'u' => some 4
  | 'U' => some 8
  | _ => none

def characterAt (code : Nat) : Except Fault Char :=
  if code < 0x110000 then .ok (Text.ofCodePoint code)
  else if code < 0x80000000 then .error (.misuse .absentCodePoint)
  else .error (.misuse .tooLarge)

/-- Reads a number of digits of base sixteen. -/
def hexNumber (cursor : Cursor) (width : Nat) : Except Fault (Nat × Cursor) :=
  let digits := cursor.rest.take width
  match digits.mapM Text.hexDigitValue? with
  | some values =>
      if values.length == width then
        .ok (values.foldl (fun number value => 16 * number + value) 0, cursor.advanceBy width)
      else .error .malformed
  | none => .error .malformed

/-- The breaks that come next in a text between marks, with the blanks around them left out. -/
def markedBreaks : Nat → Cursor → Except Fault (List Char × Cursor)
  | 0, _ => .error .malformed
  | fuel + 1, cursor =>
      if cursor.isDocumentMarker then .error .malformed
      else
        let cursor := cursor.skip fun c => c == ' ' || c == '\t'
        match cursor.lineBreak with
        | ([], _) => .ok ([], cursor)
        | (first, cursor) => do
            let (others, cursor) ← markedBreaks fuel cursor
            return (first ++ others, cursor)

/-- Reads what a backslash stands for; the cursor is after the backslash. -/
def escaped (cursor : Cursor) : Except Fault (List Char × Cursor) :=
  match cursor.next with
  | none => .error .malformed
  | some c =>
      match escapeOf? c, codeWidth? c with
      | some character, _ => .ok ([character], cursor.advance)
      | none, some width => do
          let (code, cursor) ← cursor.advance.hexNumber width
          return ([← characterAt code], cursor)
      | none, none =>
          match cursor.lineBreak with
          | ([], _) => .error .malformed
          | (_, cursor) => markedBreaks (cursor.rest.length + 1) cursor

/-- Reads the characters of a text between marks up to a gap or the closing mark. -/
def markedRun (double : Bool) : Nat → Cursor → Except Fault (List Char × Cursor)
  | 0, _ => .error .malformed
  | fuel + 1, cursor =>
      let (run, cursor) := cursor.span fun c => !isGap c && !isOneOf "'\"\\" c
      let goOn (characters : List Char) (cursor : Cursor) : Except Fault (List Char × Cursor) := do
        let (others, cursor) ← markedRun double fuel cursor
        return (run ++ characters ++ others, cursor)
      match cursor.next with
      | some '\'' =>
          if double then goOn ['\''] cursor.advance
          else if cursor.ahead 1 == some '\'' then goOn ['\''] (cursor.advanceBy 2)
          else .ok (run, cursor)
      | some '"' => if double then .ok (run, cursor) else goOn ['"'] cursor.advance
      | some '\\' =>
          if double then do
            let (characters, cursor) ← cursor.advance.escaped
            goOn characters cursor
          else goOn ['\\'] cursor.advance
      | _ => .ok (run, cursor)

/-- Reads a gap within a text between marks. -/
def markedSpaces (cursor : Cursor) : Except Fault (List Char × Cursor) := do
  let (blanks, cursor) := cursor.span fun c => c == ' ' || c == '\t'
  match cursor.next with
  | none => .error .malformed
  | some _ =>
      match cursor.lineBreak with
      | ([], _) => return (blanks, cursor)
      | (first, cursor) =>
          let (others, cursor) ← markedBreaks (cursor.rest.length + 1) cursor
          return (folded first others, cursor)

/-- Reads runs and gaps up to the closing mark, as many as the fuel says. -/
def markedRuns (mark : Char) : Nat → Cursor → Except Fault (List Char × Cursor)
  | 0, _ => .error .malformed
  | fuel + 1, cursor => do
      let (run, cursor) ← markedRun (mark == '"') (cursor.rest.length + 1) cursor
      if cursor.at? mark then return (run, cursor.advance)
      else
        let (spaces, cursor) ← cursor.markedSpaces
        let (others, cursor) ← markedRuns mark fuel cursor
        return (run ++ spaces ++ others, cursor)

/-- Reads a text between marks; the cursor is at the opening mark. -/
def markedText (cursor : Cursor) (mark : Char) : Except Fault (String × Cursor) := do
  let (characters, cursor) ← markedRuns mark (cursor.rest.length + 1) cursor.advance
  return (String.ofList characters, cursor)

/-! ## Blocks of lines -/

/-- What happens to the breaks at the end of a block. -/
inductive Ending where
  /-- The last break stays. -/
  | clip
  /-- No break stays. -/
  | strip
  /-- All breaks stay. -/
  | keep
deriving DecidableEq, Repr

def endingMark (cursor : Cursor) : Option Ending × Cursor :=
  match cursor.next with
  | some '+' => (some .keep, cursor.advance)
  | some '-' => (some .strip, cursor.advance)
  | _ => (none, cursor)

/-- Reads the indentation of a block, a digit other than zero. -/
def indentMark (cursor : Cursor) : Except Fault (Option Nat × Cursor) :=
  match cursor.next with
  | some c =>
      if !Text.isPlainDigit c then .ok (none, cursor)
      else if c == '0' then .error .malformed
      else .ok (some (Text.plainDigitValue c), cursor.advance)
  | none => .ok (none, cursor)

/-- Reads what stands at the head of a block: the rule for its end and its indentation, in either
order. -/
def blockHead (cursor : Cursor) : Except Fault ((Ending × Option Nat) × Cursor) := do
  let finish (ending : Option Ending) (indent : Option Nat) (cursor : Cursor) :
      Except Fault ((Ending × Option Nat) × Cursor) :=
    if nextIs isSpaceOrBreak cursor.next then .ok ((ending.getD .clip, indent), cursor)
    else .error .malformed
  match cursor.endingMark with
  | (some ending, cursor) =>
      let (indent, cursor) ← cursor.indentMark
      finish (some ending) indent cursor
  | (none, cursor) =>
      let (indent, cursor) ← cursor.indentMark
      match indent with
      | some width =>
          let (ending, cursor) := cursor.endingMark
          finish ending (some width) cursor
      | none => finish none none cursor

/-- Reads the end of a line on which only a remark may follow. -/
def lineEnd (cursor : Cursor) : Except Fault Cursor :=
  let cursor := cursor.skip (· == ' ')
  let cursor := if cursor.at? '#' then cursor.skip (!isBreak ·) else cursor
  if nextIs isBreak cursor.next then .ok cursor.lineBreak.2 else .error .malformed

/-- Reads the empty lines at the start of a block, and the greatest column in them. -/
def blockIndentation : Nat → Nat → Cursor → List Char × Nat × Cursor
  | 0, greatest, cursor => ([], greatest, cursor)
  | fuel + 1, greatest, cursor =>
      let cursor := cursor.skip (· == ' ')
      let greatest := max greatest cursor.column
      match cursor.lineBreak with
      | ([], _) => ([], greatest, cursor)
      | (first, cursor) =>
          let (others, greatest, cursor) := blockIndentation fuel greatest cursor
          (first ++ others, greatest, cursor)

/-- Reads the empty lines within a block of a given indentation. -/
def blockBreaks (indent : Int) : Nat → Cursor → List Char × Cursor
  | 0, cursor => ([], cursor)
  | fuel + 1, cursor =>
      let cursor := cursor.skipSpacesTo indent
      match cursor.lineBreak with
      | ([], _) => ([], cursor)
      | (first, cursor) =>
          let (others, cursor) := blockBreaks indent fuel cursor
          (first ++ others, cursor)

/-- The breaks between two lines of a block. In a folded block a single break between two lines
that start with something else than a blank is a space. -/
def between (fold : Bool) (first breaks : List Char) (spacedBefore spacedAfter : Bool) :
    List Char :=
  if fold && first == ['\n'] && !spacedBefore && !spacedAfter then
    (if breaks.isEmpty then [' '] else breaks)
  else first ++ breaks

/-- Reads the lines of a block, as many as the fuel says: their text, the last break, and the
empty lines after it. -/
def blockLines (fold : Bool) (indent : Int) :
    Nat → Cursor → List Char × List Char × List Char × Cursor
  | 0, cursor => ([], [], [], cursor)
  | fuel + 1, cursor =>
      let startsBlank (cursor : Cursor) : Bool :=
        match cursor.next with
        | some c => c == ' ' || c == '\t'
        | none => false
      let spacedBefore := startsBlank cursor
      let (line, cursor) := cursor.span (!isBreak ·)
      let (first, cursor) := cursor.lineBreak
      let (breaks, cursor) := blockBreaks indent (cursor.rest.length + 1) cursor
      if cursor.column == indent && cursor.next.isSome then
        let (others, last, final, after) := blockLines fold indent fuel cursor
        (line ++ between fold first breaks spacedBefore (startsBlank cursor) ++ others, last,
          final, after)
      else (line, first, breaks, cursor)

/-- Reads a block of lines; the cursor is at its mark, and `outer` is the indentation around
it. -/
def blockText (cursor : Cursor) (fold : Bool) (outer : Int) : Except Fault (String × Cursor) := do
  let ((ending, width), cursor) ← cursor.advance.blockHead
  let cursor ← cursor.lineEnd
  let least := max (outer + 1) 1
  let (before, indent, cursor) :=
    match width with
    | some width =>
        let indent := least + width - 1
        let (breaks, cursor) := blockBreaks indent (cursor.rest.length + 1) cursor
        (breaks, indent, cursor)
    | none =>
        let (breaks, greatest, cursor) := blockIndentation (cursor.rest.length + 1) 0 cursor
        (breaks, max least greatest, cursor)
  let (text, last, final, cursor) :=
    if cursor.column == indent && cursor.next.isSome then
      let (lines, last, final, after) :=
        blockLines fold indent (cursor.rest.length + 1) cursor
      (before ++ lines, last, final, after)
    else ([], [], before, cursor)
  let characters :=
    text ++ (if ending == .strip then [] else last) ++ (if ending == .keep then final else [])
  return (String.ofList characters, cursor)

end Cursor

end DriverKit.Yaml
