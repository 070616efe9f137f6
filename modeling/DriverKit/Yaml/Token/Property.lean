import DriverKit.Yaml.Token.Text

/-!
# Names, tags and directives in documents

The tokens that say something about a value or about the whole document: anchors and aliases, tags,
and directives.
-/

namespace DriverKit.Yaml.Cursor

/-! ## Names -/

/-- Reads the name of an anchor or an alias; the cursor is at its mark. -/
def anchorName (cursor : Cursor) : Except Fault (String × Cursor) :=
  let (name, cursor) := cursor.advance.span isNameCharacter
  if name.isEmpty || !nextIs (fun c => isGap c || isOneOf "?:,]\x7d%@\x60" c) cursor.next then
    .error .malformed
  else .ok (String.ofList name, cursor)

/-! ## Tags -/

/-- Reads a handle for tags: a mark, or a name between two marks. -/
def tagHandle (cursor : Cursor) : Except Fault (String × Cursor) :=
  if !cursor.at? '!' then .error .malformed
  else if cursor.ahead 1 == some ' ' then .ok ("!", cursor.advance)
  else
    let (name, after) := cursor.advance.span isNameCharacter
    if after.at? '!' then .ok (String.ofList ('!' :: name ++ ['!']), after.advance)
    else .error .malformed

/-- Reads escaped octets, as many as the fuel says. -/
def escapedOctets : Nat → Cursor → Except Fault (List UInt8 × Cursor)
  | 0, _ => .error .malformed
  | fuel + 1, cursor =>
      if !cursor.at? '%' then .ok ([], cursor)
      else do
        let (octet, cursor) ← cursor.advance.hexNumber 2
        let (others, cursor) ← escapedOctets fuel cursor
        return (UInt8.ofNat octet :: others, cursor)

/-- Reads the characters of a tag, as many runs as the fuel says. -/
def tagRuns : Nat → Cursor → Except Fault (List Char × Cursor)
  | 0, _ => .error .malformed
  | fuel + 1, cursor => do
      let (run, cursor) := cursor.span fun c => isTagCharacter c && c != '%'
      if !cursor.at? '%' then return (run, cursor)
      else
        let (octets, cursor) ← escapedOctets (cursor.rest.length + 1) cursor
        match String.fromUTF8? ⟨octets.toArray⟩ with
        | none => .error .malformed
        | some text =>
            let (others, cursor) ← tagRuns fuel cursor
            return (run ++ text.toList ++ others, cursor)

def tagText (cursor : Cursor) : Except Fault (String × Cursor) :=
  if nextIs (fun c => !isTagCharacter c) cursor.next then .error .malformed
  else do
    let (characters, cursor) ← tagRuns (cursor.rest.length + 1) cursor
    return (String.ofList characters, cursor)

/-- Tells whether a second mark follows before the next space or break. -/
def hasSecondMark (cursor : Cursor) : Bool :=
  ((cursor.rest.drop 1).takeWhile (!isSpaceOrBreak ·)).contains '!'

def tagBody (cursor : Cursor) : Except Fault (WrittenTag × Cursor) :=
  match cursor.ahead 1 with
  | some '<' => do
      let (suffix, cursor) ← (cursor.advanceBy 2).tagText
      if cursor.at? '>' then return (⟨none, suffix⟩, cursor.advance) else .error .malformed
  | following =>
      if nextIs isGap following then .ok (⟨none, "!"⟩, cursor.advance)
      else do
        let (handle, cursor) ←
          if cursor.hasSecondMark then cursor.tagHandle else .ok ("!", cursor.advance)
        let (suffix, cursor) ← cursor.tagText
        return (⟨some handle, suffix⟩, cursor)

/-- Reads a tag; the cursor is at its mark. -/
def writtenTag (cursor : Cursor) : Except Fault (WrittenTag × Cursor) := do
  let (tag, cursor) ← cursor.tagBody
  if nextIs isSpaceOrBreak cursor.next then return (tag, cursor) else .error .malformed

/-! ## Directives -/

def directiveNumber (cursor : Cursor) : Except Fault (Nat × Cursor) :=
  let (digits, cursor) := cursor.span Text.isPlainDigit
  if digits.isEmpty then .error .malformed
  else
    match Text.readNumber? digits with
    | some number => .ok (number, cursor)
    | none => .error (.misuse .overlongNumeral)

def versionValue (cursor : Cursor) : Except Fault (Token × Cursor) := do
  let (major, cursor) ← (cursor.skip (· == ' ')).directiveNumber
  if !cursor.at? '.' then .error .malformed
  else
    let (_, cursor) ← cursor.advance.directiveNumber
    if nextIs isSpaceOrBreak cursor.next then return (.versionDirective major, cursor)
    else .error .malformed

def handleValue (cursor : Cursor) : Except Fault (Token × Cursor) := do
  let (handle, cursor) ← (cursor.skip (· == ' ')).tagHandle
  if !cursor.at? ' ' then .error .malformed
  else
    let (start, cursor) ← (cursor.skip (· == ' ')).tagText
    if nextIs isSpaceOrBreak cursor.next then return (.tagDirective handle start, cursor)
    else .error .malformed

/-- Reads a directive with the end of its line; the cursor is at its mark. -/
def directive (cursor : Cursor) : Except Fault (Token × Cursor) := do
  let (name, cursor) := cursor.advance.span isNameCharacter
  if name.isEmpty || !nextIs isSpaceOrBreak cursor.next then .error .malformed
  else
    let (token, cursor) ←
      match String.ofList name with
      | "YAML" => cursor.versionValue
      | "TAG" => cursor.handleValue
      | _ => .ok (.otherDirective, cursor.skip (!isBreak ·))
    return (token, ← cursor.lineEnd)

end DriverKit.Yaml.Cursor
