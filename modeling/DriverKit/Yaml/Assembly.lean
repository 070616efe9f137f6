import DriverKit.Datum.Unfolding
import DriverKit.Yaml.Graph.Merging
import DriverKit.Yaml.Scalar

/-!
# Assembling values

The value of a document, put together from its nodes. Every node becomes one value, wherever it
stands: a scalar at once, and a collection an empty one at first, which is filled in its turn. The
collections are filled in the order in which they were met, so those near the root come first. A
fault ends the work, and the merges of a map are carried out just before it is filled.
-/

namespace DriverKit.Yaml

/-! ## Scalars -/

/-- The text of a node: its own, or for a map that of the value that stands for the whole map. A
map whose values stand for each other has none, and looking for it does not end. -/
def Nodes.text (nodes : Nodes) : Nat → Nat → Except Fault String
  | 0, _ => .error (.misuse .tooDeep)
  | fuel + 1, number =>
      match nodes.content? number with
      | some (.text characters) => .ok characters
      | some (.map entries) =>
          match entries.find? fun entry => nodes.hasTag entry.1 .default with
          | some (_, value) => nodes.text fuel value
          | none => .error .malformed
      | _ => .error .malformed

/-- What is no number gets the node that it comes from as its origin. -/
def nameOrigin (number : Nat) : Scalar → Scalar
  | .real .nan => .nan (number + 1)
  | value => value

/-- The value of a node of a kind without parts. A map never stands for a moment. -/
def Nodes.scalar (nodes : Nodes) (number : Nat) (node : Node) : Except Fault Scalar := do
  if !node.tag.hasTexts then .error .malformed
  else
    let text ← nodes.text (nodes.size + 1) number
    match node.content, node.tag with
    | .map _, .timestamp => .error (.misuse .notIterable)
    | _, tag => return nameOrigin number (← tag.readText text)

/-! ## Collections -/

/-- How far the value of a document has been put together. -/
structure Assembly where
  nodes : Nodes
  /-- A bound for the number of merges that are left. -/
  merges : Nat
  /-- What the nodes have become so far, by their numbers. -/
  made : Array (Option Link)
  /-- The collections so far, by their places. -/
  cells : Web
  /-- The nodes of the collections that are still to be filled, with their places, the last one
  first. -/
  waiting : List (Nat × Nat)

namespace Assembly

def start (nodes : Nodes) : Assembly :=
  ⟨nodes, nodes.mergeCount, Array.replicate nodes.size none, #[], []⟩

def emptyCell? : Tag → Option Cell
  | .list | .orderedMap | .pairs => some (.list [])
  | .map => some (.map [])
  | .set => some (.set [])
  | _ => none

def note (assembly : Assembly) (number : Nat) (link : Link) : Link × Assembly :=
  (link, { assembly with made := assembly.made.setIfInBounds number (some link) })

def take (assembly : Assembly) (number : Nat) : Except Fault (Link × Assembly) :=
  match (assembly.made[number]?).join, assembly.nodes[number]? with
  | some link, _ => .ok (link, assembly)
  | none, none => .error .malformed
  | none, some node =>
      match emptyCell? node.tag with
      | some cell =>
          let place := assembly.cells.size
          .ok ({ assembly with
            cells := assembly.cells.push cell
            waiting := (number, place) :: assembly.waiting }.note number (.cell place))
      | none => do
          return assembly.note number (.scalar (← assembly.nodes.scalar number node))

def takeItems (assembly : Assembly) : List Nat → Except Fault (List Link × Assembly)
  | [] => .ok ([], assembly)
  | item :: rest => do
      let (link, assembly) ← assembly.take item
      let (links, assembly) ← assembly.takeItems rest
      return (link :: links, assembly)

/-- The values that the entries of a map become, added to those before them. Of several values of a
key the last counts, at the place of the first. A collection is no key. -/
def takeEntries (assembly : Assembly) :
    List (Nat × Nat) → List (Scalar × Link) → Except Fault (List (Scalar × Link) × Assembly)
  | [], before => .ok (before, assembly)
  | (key, value) :: rest, before => do
      let (name, assembly) ← assembly.take key
      match name with
      | .cell _ => .error .malformed
      | .scalar name =>
          let (link, assembly) ← assembly.take value
          assembly.takeEntries rest (name.put link before)

/-- The pairs that the maps of a list become. Each map must have one entry; a merge in it stays
where it is. -/
def takePairs (assembly : Assembly) : List Nat → Except Fault (List Link × Assembly)
  | [] => .ok ([], assembly)
  | item :: rest =>
      match assembly.nodes.entries? item with
      | some [(key, value)] => do
          let (first, assembly) ← assembly.take key
          let (second, assembly) ← assembly.take value
          let place := assembly.cells.size
          let assembly := { assembly with cells := assembly.cells.push (.pair first second) }
          let (links, assembly) ← assembly.takePairs rest
          return (.cell place :: links, assembly)
      | _ => .error .malformed

def mergedEntries (assembly : Assembly) (number : Nat) :
    Except Fault (List (Scalar × Link) × Assembly) :=
  match assembly.nodes.entries? number with
  | none => .error .malformed
  | some _ => do
      let nodes ← assembly.nodes.merge assembly.merges number
      { assembly with nodes := nodes }.takeEntries ((nodes.entries? number).getD []) []

def takeParts (assembly : Assembly) (number : Nat) (tag : Tag) :
    Except Fault (Cell × Assembly) :=
  match tag, assembly.nodes.content? number with
  | .list, some (.list items) => do
      let (links, assembly) ← assembly.takeItems items
      return (.list links, assembly)
  | .orderedMap, some (.list items) | .pairs, some (.list items) => do
      let (links, assembly) ← assembly.takePairs items
      return (.list links, assembly)
  | .map, some (.map _) => do
      let (entries, assembly) ← assembly.mergedEntries number
      return (.map entries, assembly)
  | .set, some (.map _) => do
      let (entries, assembly) ← assembly.mergedEntries number
      return (.set (entries.map Prod.fst), assembly)
  | _, _ => .error .malformed

def fill (assembly : Assembly) (number place : Nat) : Except Fault Assembly :=
  match assembly.nodes[number]? with
  | none => .error .malformed
  | some node => do
      let (cell, assembly) ← assembly.takeParts number node.tag
      return { assembly with cells := assembly.cells.setIfInBounds place cell }

/-- Fills the collections that wait, and then those that were met on the way, as many rounds as the
fuel says. Every round fills at least one, and no node waits twice. -/
def fillAll : Nat → Assembly → Except Fault Assembly
  | 0, assembly => .ok assembly
  | rounds + 1, assembly =>
      match assembly.waiting.reverse with
      | [] => .ok assembly
      | first :: others => do
          let next ← (first :: others).foldlM
            (fun (assembly : Assembly) (number, place) => assembly.fill number place)
            { assembly with waiting := [] }
          fillAll rounds next

end Assembly

def Graph.datum (graph : Graph) : Except Fault Datum := do
  let (link, assembly) ← (Assembly.start graph.nodes).take graph.root
  let assembly ← Assembly.fillAll graph.nodes.size assembly
  match link with
  | .scalar value => return .scalar value
  | .cell place => return assembly.cells.datum place

end DriverKit.Yaml
