import DriverKit.Yaml.Graph.Basic
import DriverKit.Yaml.Token.Lexer

/-!
# Reading graphs

The nodes of the only document of a text, found in its tokens. Block collections end with a token
of their own, except for a list that stands at the indentation of its key: that one ends where no
further entry follows. Where a node is left out, the empty one is meant.

A node has its number from its start on, so that an alias within a collection can stand for the
collection. Tokens are only looked at when they are needed: a fault of the reader that comes before
a token that cannot be had is the one that counts.
-/

namespace DriverKit.Yaml

structure Reader where
  tokens : List Token
  nodes : Nodes
  /-- The numbers of the nodes that anchors name. -/
  anchors : List (String × Nat)
  /-- What the handles of tags stand for. -/
  handles : List (String × String)

namespace Reader

def usualHandles : List (String × String) := [("!", "!"), ("!!", Tag.usualStart)]

def peek (reader : Reader) : Except Fault Token :=
  match reader.tokens with
  | .broken fault :: _ => .error fault
  | token :: _ => .ok token
  | [] => .error .malformed

def advance (reader : Reader) : Reader := { reader with tokens := reader.tokens.tail }

def atOneOf (reader : Reader) (tokens : List Token) : Except Fault Bool := do
  return tokens.contains (← reader.peek)

def expect (reader : Reader) (token : Token) : Except Fault Reader := do
  if (← reader.peek) == token then return reader.advance else .error .malformed

/-! ## Properties of a node -/

/-- What is said about a node before it: an anchor, and the name of its tag. -/
structure Properties where
  anchor : Option String
  tag : Option String

def tagName (reader : Reader) (written : WrittenTag) : Except Fault String :=
  match written.handle with
  | none => .ok written.suffix
  | some handle =>
      match reader.handles.lookup handle with
      | some start => .ok (start ++ written.suffix)
      | none => .error .malformed

def properties (reader : Reader) : Except Fault (Properties × Reader) := do
  match ← reader.peek with
  | .anchor name =>
      let reader := reader.advance
      match ← reader.peek with
      | .tag written => return (⟨some name, some (← reader.tagName written)⟩, reader.advance)
      | _ => return (⟨some name, none⟩, reader)
  | .tag written =>
      let reader := reader.advance
      match ← reader.peek with
      | .anchor name => return (⟨some name, some (← reader.tagName written)⟩, reader.advance)
      | _ => return (⟨none, some (← reader.tagName written)⟩, reader)
  | _ => return (⟨none, none⟩, reader)

namespace Properties

/-- Tells whether the tag leaves the kind of a node open. -/
def isOpen (properties : Properties) : Bool :=
  match properties.tag with
  | none => true
  | some name => name == "!"

def collectionTag (properties : Properties) (usual : Tag) : Tag :=
  if properties.isOpen then usual else ((properties.tag.map Tag.ofName).getD usual)

/-- The tag of a text. Without a tag only a plain text has a form; a tag that leaves the kind open
gives every text a form. -/
def textTag (properties : Properties) (text : String) (plain : Bool) : Tag :=
  match properties.tag with
  | none => if plain then Tag.ofPlain text else .text
  | some name => if name == "!" then Tag.ofPlain text else Tag.ofName name

def omitted? (properties : Properties) : Option Node :=
  match properties.anchor, properties.tag with
  | none, none => none
  | _, none => some .empty
  | _, some name => some (if name == "!" then .empty else ⟨Tag.ofName name, .text ""⟩)

end Properties

/-! ## Numbers of nodes -/

def add (reader : Reader) (node : Node) : Nat × Reader :=
  (reader.nodes.size, { reader with nodes := reader.nodes.push node })

/-- Adds a node, which its anchor names from now on. -/
def addNamed (reader : Reader) (properties : Properties) (node : Node) : Nat × Reader :=
  let (number, reader) := reader.add node
  match properties.anchor with
  | some name => (number, { reader with anchors := (name, number) :: reader.anchors })
  | none => (number, reader)

/-- Adds a collection and then reads its parts, among which it is named already. -/
def collect (reader : Reader) (properties : Properties) (node : Node)
    (parts : Reader → Except Fault (Content × Reader)) : Except Fault (Nat × Reader) := do
  let (number, reader) := reader.addNamed properties node
  let (content, reader) ← parts reader
  return (number, { reader with nodes := reader.nodes.setContent number content })

def resolve (reader : Reader) (name : String) : Except Fault Nat :=
  match reader.anchors.lookup name with
  | some number => .ok number
  | none => .error .malformed

def refuseNamed (reader : Reader) (properties : Properties) : Except Fault Unit :=
  if properties.anchor.any fun name => (reader.anchors.lookup name).isSome then .error .malformed
  else .ok ()

/-! ## Nodes -/

inductive Place where
  /-- In a flow collection, where no block starts. -/
  | flow
  | block
  /-- In a map, where a list may stand at the indentation of its key. -/
  | entry
deriving DecidableEq

/-- The form of a node, told by the token that it starts with. -/
inductive Form where
  | text (characters : String) (plain : Bool)
  | flowList
  | flowMap
  | blockList
  | blockMap
  /-- A list at the indentation of its key. -/
  | alignedList
  | omitted

def Form.ofToken (place : Place) : Token → Form
  | .scalar characters plain => .text characters plain
  | .flowListStart => .flowList
  | .flowMapStart => .flowMap
  | .blockListStart => if place = .flow then .omitted else .blockList
  | .blockMapStart => if place = .flow then .omitted else .blockMap
  | .blockEntry => if place = .entry then .alignedList else .omitted
  | _ => .omitted

def listOf (items : Except Fault (List Nat × Reader)) : Except Fault (Content × Reader) :=
  items.map fun (items, reader) => (.list items, reader)

def mapOf (entries : Except Fault (List (Nat × Nat) × Reader)) :
    Except Fault (Content × Reader) :=
  entries.map fun (entries, reader) => (.map entries, reader)

mutual

def node : Nat → Nat → Place → Reader → Except Fault (Nat × Reader)
  | 0, _, _, _ => .error .malformed
  | _, 0, _, _ => .error (.misuse .tooDeep)
  | fuel + 1, levels + 1, place, reader => do
      match ← reader.peek with
      | .alias name => return (← reader.resolve name, reader.advance)
      | _ =>
          let (properties, reader) ← reader.properties
          let form := Form.ofToken place (← reader.peek)
          let list : Node := ⟨properties.collectionTag .list, .list []⟩
          let map : Node := ⟨properties.collectionTag .map, .map []⟩
          reader.refuseNamed properties
          match form with
          | .text characters plain =>
              let node : Node := ⟨properties.textTag characters plain, .text characters⟩
              return reader.advance.addNamed properties node
          | .flowList =>
              reader.advance.collect properties list fun reader =>
                listOf (flowItems fuel levels true reader)
          | .flowMap =>
              reader.advance.collect properties map fun reader =>
                mapOf (flowEntries fuel levels true reader)
          | .blockList =>
              reader.advance.collect properties list fun reader =>
                listOf (blockItems fuel levels reader)
          | .blockMap =>
              reader.advance.collect properties map fun reader =>
                mapOf (blockEntries fuel levels reader)
          | .alignedList =>
              reader.collect properties list fun reader =>
                listOf (alignedItems fuel levels reader)
          | .omitted =>
              match properties.omitted? with
              | some node => return reader.addNamed properties node
              | none => .error .malformed

/-- Reads a node, or the empty one if one of some tokens comes next. -/
def nodeUnless : Nat → Nat → List Token → Place → Reader → Except Fault (Nat × Reader)
  | 0, _, _, _, _ => .error .malformed
  | fuel + 1, levels, tokens, place, reader => do
      if ← reader.atOneOf tokens then return reader.add .empty
      else node fuel levels place reader

def valueUnless : Nat → Nat → List Token → Place → Reader → Except Fault (Nat × Reader)
  | 0, _, _, _, _ => .error .malformed
  | fuel + 1, levels, tokens, place, reader => do
      if (← reader.peek) == .value then nodeUnless fuel levels tokens place reader.advance
      else return reader.add .empty

def blockItems : Nat → Nat → Reader → Except Fault (List Nat × Reader)
  | 0, _, _ => .error .malformed
  | fuel + 1, levels, reader => do
      if (← reader.peek) == .blockEntry then
        let (item, reader) ←
          nodeUnless fuel levels [.blockEntry, .blockEnd] .block reader.advance
        let (items, reader) ← blockItems fuel levels reader
        return (item :: items, reader)
      else return ([], ← reader.expect .blockEnd)

def alignedItems : Nat → Nat → Reader → Except Fault (List Nat × Reader)
  | 0, _, _ => .error .malformed
  | fuel + 1, levels, reader => do
      if (← reader.peek) == .blockEntry then
        let (item, reader) ←
          nodeUnless fuel levels [.blockEntry, .key, .value, .blockEnd] .block reader.advance
        let (items, reader) ← alignedItems fuel levels reader
        return (item :: items, reader)
      else return ([], reader)

def blockEntries : Nat → Nat → Reader → Except Fault (List (Nat × Nat) × Reader)
  | 0, _, _ => .error .malformed
  | fuel + 1, levels, reader => do
      let ends := [Token.key, .value, .blockEnd]
      if (← reader.peek) == .key then
        let (key, reader) ← nodeUnless fuel levels ends .entry reader.advance
        let (value, reader) ← valueUnless fuel levels ends .entry reader
        let (entries, reader) ← blockEntries fuel levels reader
        return ((key, value) :: entries, reader)
      else return ([], ← reader.expect .blockEnd)

/-- Reads the only entry of a map that stands in a flow list without marks of its own. -/
def loneEntry : Nat → Nat → Reader → Except Fault (List (Nat × Nat) × Reader)
  | 0, _, _ => .error .malformed
  | fuel + 1, levels, reader => do
      let (key, reader) ←
        nodeUnless fuel levels [.value, .flowEntry, .flowListEnd] .flow reader.advance
      let (value, reader) ← valueUnless fuel levels [.flowEntry, .flowListEnd] .flow reader
      return ([(key, value)], reader)

/-- Reads the items of a flow list up to its end. An item with a key is a map with one entry. -/
def flowItems : Nat → Nat → Bool → Reader → Except Fault (List Nat × Reader)
  | 0, _, _, _ => .error .malformed
  | fuel + 1, levels, first, reader => do
      if (← reader.peek) == .flowListEnd then return ([], reader.advance)
      else
        let reader ← if first then pure reader else reader.expect .flowEntry
        match ← reader.peek with
        | .key =>
            match levels with
            | 0 => .error (.misuse .tooDeep)
            | below + 1 =>
                let (item, reader) ←
                  reader.collect ⟨none, none⟩ ⟨.map, .map []⟩ fun reader =>
                    mapOf (loneEntry fuel below reader)
                let (items, reader) ← flowItems fuel levels false reader
                return (item :: items, reader)
        | .flowListEnd => return ([], reader.advance)
        | _ =>
            let (item, reader) ← node fuel levels .flow reader
            let (items, reader) ← flowItems fuel levels false reader
            return (item :: items, reader)

def flowEntries : Nat → Nat → Bool → Reader → Except Fault (List (Nat × Nat) × Reader)
  | 0, _, _, _ => .error .malformed
  | fuel + 1, levels, first, reader => do
      if (← reader.peek) == .flowMapEnd then return ([], reader.advance)
      else
        let reader ← if first then pure reader else reader.expect .flowEntry
        match ← reader.peek with
        | .key =>
            let (key, reader) ←
              nodeUnless fuel levels [.value, .flowEntry, .flowMapEnd] .flow reader.advance
            let (value, reader) ← valueUnless fuel levels [.flowEntry, .flowMapEnd] .flow reader
            let (entries, reader) ← flowEntries fuel levels false reader
            return ((key, value) :: entries, reader)
        | .flowMapEnd => return ([], reader.advance)
        | _ =>
            let (key, reader) ← node fuel levels .flow reader
            let (value, reader) := reader.add .empty
            let (entries, reader) ← flowEntries fuel levels false reader
            return ((key, value) :: entries, reader)

end

/-! ## Documents -/

/-- The most steps that reading a node takes: every token is passed once, and before it is passed
at most three further steps are taken. -/
def stepBound (reader : Reader) : Nat := 4 * reader.tokens.length + 4

def rootNode (levels : Nat) (reader : Reader) : Except Fault (Nat × Reader) :=
  node reader.stepBound levels .block reader

/-- Reads the directives of a document: what the handles of its tags stand for, and the tokens that
follow. -/
def directives : List Token → Bool → List (String × String) →
    Except Fault (List (String × String) × List Token)
  | .versionDirective major :: rest, versioned, handles =>
      if versioned || major != 1 then .error .malformed else directives rest true handles
  | .tagDirective handle start :: rest, versioned, handles =>
      if (handles.lookup handle).isSome then .error .malformed
      else directives rest versioned ((handle, start) :: handles)
  | .otherDirective :: rest, versioned, handles => directives rest versioned handles
  | tokens, _, handles => .ok (handles, tokens)

def isDirective : Token → Bool
  | .versionDirective _ => true
  | .tagDirective _ _ => true
  | .otherDirective => true
  | _ => false

/-- Reads the directives of a document and the line that it starts with. -/
def documentHead (reader : Reader) : Except Fault Reader := do
  let (handles, rest) ← directives reader.tokens false []
  { reader with tokens := rest, handles := handles ++ usualHandles }.expect .documentStart

/-- Reads the node of a document that starts with a line of its own, after its directives. -/
def explicitDocument (levels : Nat) (reader : Reader) : Except Fault (Nat × Reader) := do
  let reader ← reader.documentHead
  let token ← reader.peek
  if isDirective token || [Token.documentStart, .documentEnd, .streamEnd].contains token then
    return reader.add .empty
  else reader.rootNode levels

/-- Passes the end of the only document; a further document is refused once its start has been
read. -/
def endOfStream (reader : Reader) : Except Fault Unit := do
  let rest := reader.tokens.dropWhile (· == Token.documentEnd)
  let reader := { reader with tokens := rest }
  if (← reader.peek) == .streamEnd then return ()
  else
    let _ ← reader.documentHead
    .error .malformed

/-- Reads the only document there is, with nodes below so many levels; no document at all has the
empty node. -/
def document (levels : Nat) (reader : Reader) : Except Fault Graph := do
  let token ← reader.peek
  if token == .streamEnd then return .empty
  else
    let (root, reader) ←
      if isDirective token || token == .documentStart then
        reader.explicitDocument levels
      else reader.rootNode levels
    reader.endOfStream
    return ⟨reader.nodes, root⟩

end Reader

def Graph.read (levels : Nat) (characters : List Char) : Except Fault Graph :=
  Reader.document levels ⟨tokens characters, #[], [], Reader.usualHandles⟩

end DriverKit.Yaml
