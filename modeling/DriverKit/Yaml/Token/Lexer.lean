import DriverKit.Yaml.Token.Property

/-!
# Taking documents apart

The tokens of a document, found from its start to its end. What is a key is only known when the
colon after it is seen, so a possible key is remembered and the tokens that announce it are put in
front of it later. A possible key lies on one line and is at most 1024 characters long.
-/

namespace DriverKit.Yaml

/-- A place at which a key may have started. -/
structure PossibleKey where
  /-- The number of tokens before it. -/
  position : Nat
  /-- Whether it must turn out to be a key. -/
  required : Bool
  index : Nat
  line : Nat
  column : Nat

/-- How far a document has been taken apart. -/
structure Lexer where
  cursor : Cursor
  /-- The tokens so far, the last one first. -/
  found : List Token
  /-- The number of tokens so far. -/
  count : Nat
  flowLevel : Nat
  /-- The column of the innermost block collection, or -1. -/
  indent : Int
  /-- The columns of the block collections around it. -/
  outerIndents : List Int
  /-- Whether a key may start here. -/
  keyAllowed : Bool
  /-- The possible keys, at most one on each level. -/
  keys : List (Nat × PossibleKey)

namespace Lexer

/-- The state before anything is taken apart. -/
def start (characters : List Char) : Lexer where
  cursor := .start characters
  found := []
  count := 0
  flowLevel := 0
  indent := -1
  outerIndents := []
  keyAllowed := true
  keys := []

/-- Tells whether the reader is inside a flow collection. -/
def inFlow (lexer : Lexer) : Bool := lexer.flowLevel != 0

def add (lexer : Lexer) (token : Token) : Lexer :=
  { lexer with found := token :: lexer.found, count := lexer.count + 1 }

def insert (lexer : Lexer) (position : Nat) (token : Token) : Lexer :=
  let after := lexer.count - position
  { lexer with
    found := lexer.found.take after ++ token :: lexer.found.drop after
    count := lexer.count + 1 }

def moveTo (lexer : Lexer) (cursor : Cursor) : Lexer := { lexer with cursor := cursor }

/-- Says whether a key may start at the next place. -/
def allowKey (lexer : Lexer) (allowed : Bool) : Lexer := { lexer with keyAllowed := allowed }

/-! ## Indentation -/

/-- Ends the block collections that are indented more than a column, as many as the fuel says. -/
def unwindWithin : Nat → Lexer → Int → Lexer
  | 0, lexer, _ => lexer
  | fuel + 1, lexer, column =>
      if lexer.indent ≤ column then lexer
      else
        let (outer, others) :=
          match lexer.outerIndents with
          | outer :: others => (outer, others)
          | [] => (-1, [])
        unwindWithin fuel
          (({ lexer with indent := outer, outerIndents := others }).add .blockEnd) column

/-- Ends the block collections that are indented more than a column. In a flow collection
indentation means nothing. -/
def unwind (lexer : Lexer) (column : Int) : Lexer :=
  if lexer.inFlow then lexer
  else unwindWithin (lexer.outerIndents.length + 1) lexer column

/-- Starts a block collection at a column, unless one is there already: adds its token before the
tokens after a position. -/
def openBlock (lexer : Lexer) (column : Int) (position : Nat) (token : Token) : Lexer :=
  if lexer.indent < column then
    ({ lexer with
      indent := column
      outerIndents := lexer.indent :: lexer.outerIndents }).insert position token
  else lexer

/-! ## Possible keys -/

/-- Forgets the possible key of this level, unless it must be a key. -/
def dropKey (lexer : Lexer) : Except Fault Lexer :=
  match lexer.keys.lookup lexer.flowLevel with
  | some key =>
      if key.required then .error .malformed
      else .ok { lexer with keys := lexer.keys.filter (·.1 != lexer.flowLevel) }
  | none => .ok lexer

/-- Remembers that a key may start here. -/
def noteKey (lexer : Lexer) : Except Fault Lexer := do
  if !lexer.keyAllowed then return lexer
  else
    let cursor := lexer.cursor
    let required := !lexer.inFlow && lexer.indent == cursor.column
    let lexer ← lexer.dropKey
    let key : PossibleKey := ⟨lexer.count, required, cursor.index, cursor.line, cursor.column⟩
    return { lexer with keys := (lexer.flowLevel, key) :: lexer.keys }

/-- Tells whether a possible key can no longer turn out to be one. -/
def isStale (lexer : Lexer) (key : PossibleKey) : Bool :=
  key.line != lexer.cursor.line || 1024 < lexer.cursor.index - key.index

/-- Forgets the possible keys that can no longer turn out to be keys. -/
def dropStaleKeys (lexer : Lexer) : Except Fault Lexer :=
  if lexer.keys.any fun entry => lexer.isStale entry.2 && entry.2.required then .error .malformed
  else .ok { lexer with keys := lexer.keys.filter fun entry => !lexer.isStale entry.2 }

/-! ## Tokens -/

/-- Ends all block collections and forgets the possible key. -/
def closeBlocks (lexer : Lexer) : Except Fault Lexer := do
  return (← (lexer.unwind (-1)).dropKey).allowKey false

/-- Adds a token for the start or end of a document. -/
def fetchMarker (lexer : Lexer) (token : Token) : Except Fault Lexer := do
  let lexer ← lexer.closeBlocks
  return (lexer.moveTo (lexer.cursor.advanceBy 3)).add token

def fetchDirective (lexer : Lexer) : Except Fault Lexer := do
  let lexer ← lexer.closeBlocks
  let (token, cursor) ← lexer.cursor.directive
  return (lexer.moveTo cursor).add token

def fetchFlowStart (lexer : Lexer) (token : Token) : Except Fault Lexer := do
  let lexer ← lexer.noteKey
  let deeper := { lexer with flowLevel := lexer.flowLevel + 1, keyAllowed := true }
  return (deeper.moveTo deeper.cursor.advance).add token

def fetchFlowEnd (lexer : Lexer) (token : Token) : Except Fault Lexer := do
  let lexer ← lexer.dropKey
  let outer := { lexer with flowLevel := lexer.flowLevel - 1, keyAllowed := false }
  return (outer.moveTo outer.cursor.advance).add token

def fetchFlowEntry (lexer : Lexer) : Except Fault Lexer := do
  let lexer ← (lexer.allowKey true).dropKey
  return (lexer.moveTo lexer.cursor.advance).add .flowEntry

/-- Starts a block collection here for an entry or a key that is written with a mark of its own;
in a flow collection the mark needs none. -/
def startBlock (lexer : Lexer) (token : Token) : Except Fault Lexer :=
  if lexer.inFlow then .ok lexer
  else if !lexer.keyAllowed then .error .malformed
  else .ok (lexer.openBlock lexer.cursor.column lexer.count token)

def fetchBlockEntry (lexer : Lexer) : Except Fault Lexer := do
  let lexer ← ((← lexer.startBlock .blockListStart).allowKey true).dropKey
  return (lexer.moveTo lexer.cursor.advance).add .blockEntry

/-- Adds a key that is written with a mark of its own. -/
def fetchKey (lexer : Lexer) : Except Fault Lexer := do
  let lexer ← lexer.startBlock .blockMapStart
  let lexer ← (lexer.allowKey !lexer.inFlow).dropKey
  return (lexer.moveTo lexer.cursor.advance).add .key

/-- Adds the mark before a value. If a possible key stands before it, it is one. -/
def fetchValue (lexer : Lexer) : Except Fault Lexer := do
  match lexer.keys.lookup lexer.flowLevel with
  | some key =>
      let known := { lexer with keys := lexer.keys.filter (·.1 != lexer.flowLevel) }
      let announced := known.insert key.position .key
      let opened :=
        if announced.inFlow then announced
        else announced.openBlock key.column key.position .blockMapStart
      return ((opened.allowKey false).moveTo lexer.cursor.advance).add .value
  | none =>
      let lexer ← lexer.startBlock .blockMapStart
      let lexer ← (lexer.allowKey !lexer.inFlow).dropKey
      return (lexer.moveTo lexer.cursor.advance).add .value

def fetchKeyLike (lexer : Lexer) (read : Cursor → Except Fault (Token × Cursor)) :
    Except Fault Lexer := do
  let lexer := (← lexer.noteKey).allowKey false
  let (token, cursor) ← read lexer.cursor
  return (lexer.moveTo cursor).add token

def fetchBlockText (lexer : Lexer) (fold : Bool) : Except Fault Lexer := do
  let lexer ← (lexer.allowKey true).dropKey
  let (text, cursor) ← lexer.cursor.blockText fold lexer.indent
  return (lexer.moveTo cursor).add (.scalar text false)

def fetchPlain (lexer : Lexer) : Except Fault Lexer := do
  let lexer ← lexer.noteKey
  let (text, lineEnded, cursor) := lexer.cursor.plainText lexer.inFlow (lexer.indent + 1)
  return ((lexer.allowKey lineEnded).moveTo cursor).add (.scalar text true)

/-- Skips what stands between tokens, as many lines as the fuel says. Outside flow collections a
key may start on a new line. -/
def skipToToken : Nat → Lexer → Lexer
  | 0, lexer => lexer
  | fuel + 1, lexer =>
      let cursor := lexer.cursor.skip (· == ' ')
      let cursor := if cursor.at? '#' then cursor.skip (!isBreak ·) else cursor
      match cursor.lineBreak with
      | ([], _) => lexer.moveTo cursor
      | (_, cursor) =>
          skipToToken fuel
            ((lexer.moveTo cursor).allowKey (lexer.keyAllowed || !lexer.inFlow))

def mayStartPlain (lexer : Lexer) (c : Char) : Bool :=
  (!isGap c && !isOneOf "-?:,[]\x7b\x7d#&*!|>'\"%@\x60" c)
    || (!nextIs isGap (lexer.cursor.ahead 1)
      && (c == '-' || (!lexer.inFlow && (c == '?' || c == ':'))))

def fetch (lexer : Lexer) (c : Char) : Except Fault Lexer :=
  let cursor := lexer.cursor
  let gapFollows := nextIs isGap (cursor.ahead 1)
  let text (mark : Char) (cursor : Cursor) : Except Fault (Token × Cursor) := do
    let (text, cursor) ← cursor.markedText mark
    return (.scalar text false, cursor)
  let named (token : String → Token) (cursor : Cursor) : Except Fault (Token × Cursor) := do
    let (name, cursor) ← cursor.anchorName
    return (token name, cursor)
  let tagged (cursor : Cursor) : Except Fault (Token × Cursor) := do
    let (tag, cursor) ← cursor.writtenTag
    return (.tag tag, cursor)
  if c == '%' && cursor.column == 0 then lexer.fetchDirective
  else if cursor.column == 0 && cursor.isMarker '-' then lexer.fetchMarker .documentStart
  else if cursor.column == 0 && cursor.isMarker '.' then lexer.fetchMarker .documentEnd
  else if c == '[' then lexer.fetchFlowStart .flowListStart
  else if c == '\x7b' then lexer.fetchFlowStart .flowMapStart
  else if c == ']' then lexer.fetchFlowEnd .flowListEnd
  else if c == '\x7d' then lexer.fetchFlowEnd .flowMapEnd
  else if c == ',' then lexer.fetchFlowEntry
  else if c == '-' && gapFollows then lexer.fetchBlockEntry
  else if c == '?' && (lexer.inFlow || gapFollows) then lexer.fetchKey
  else if c == ':' && (lexer.inFlow || gapFollows) then lexer.fetchValue
  else if c == '*' then lexer.fetchKeyLike (named .alias)
  else if c == '&' then lexer.fetchKeyLike (named .anchor)
  else if c == '!' then lexer.fetchKeyLike tagged
  else if c == '|' && !lexer.inFlow then lexer.fetchBlockText false
  else if c == '>' && !lexer.inFlow then lexer.fetchBlockText true
  else if c == '\'' || c == '"' then lexer.fetchKeyLike (text c)
  else if lexer.mayStartPlain c then lexer.fetchPlain
  else .error .malformed

/-- Goes to the next token: what stands before it is skipped, and block collections that it is not
indented for end. -/
def approach (lexer : Lexer) : Except Fault Lexer := do
  let lexer ← (lexer.skipToToken (lexer.cursor.rest.length + 1)).dropStaleKeys
  return lexer.unwind lexer.cursor.column

/-- The number of tokens that can be had before more of the document is looked at: a token at which
a key may have started has to wait, because what announces the key may still be put before it. -/
def settled (lexer : Lexer) : Nat :=
  lexer.keys.foldl
    (fun least entry => if lexer.isStale entry.2 then least else min least entry.2.position)
    lexer.count

/-- The tokens that can be had, if the rest of the document cannot be taken apart. -/
def brokenBy (lexer : Lexer) (fault : Fault) : List Token :=
  .broken fault :: lexer.found.drop (lexer.count - lexer.settled)

/-- Takes a document apart, as many tokens as the fuel says. -/
def run : Nat → Lexer → List Token
  | 0, lexer => lexer.found
  | fuel + 1, lexer =>
      let step : Except Fault (Lexer × Bool) := do
        let next ← lexer.approach
        match next.cursor.next with
        | none => return ((← next.closeBlocks).add .streamEnd, true)
        | some c => return (← next.fetch c, false)
      match step with
      | .error fault => lexer.brokenBy fault
      | .ok (next, true) => next.found
      | .ok (next, false) => run fuel next

end Lexer

/-- The tokens of a document. A byte order mark at its start is skipped. -/
def tokens (characters : List Char) : List Token :=
  let lexer := Lexer.start characters
  let lexer :=
    if lexer.cursor.at? byteOrderMark then lexer.moveTo lexer.cursor.advance else lexer
  (Lexer.run (characters.length + 1) lexer).reverse

end DriverKit.Yaml
