import DriverKit.Yaml.Graph.Basic
import DriverKit.Yaml.Token.Basic

/-!
# Merging

Maps may have keys that merge other maps into them. Merging puts the entries of those maps before
the other entries; a list of maps is merged with its last map first. What is merged into another
map has its own merges carried out before, and a map that is being merged into already takes part
with the entries that it has left.
-/

namespace DriverKit.Yaml.Nodes

/-- The value of the first merge among entries, and the other entries. -/
def takeMerge? (nodes : Nodes) : List (Nat × Nat) → Option (Nat × List (Nat × Nat))
  | [] => none
  | (key, value) :: rest =>
      if nodes.hasTag key .merge then some (value, rest)
      else (nodes.takeMerge? rest).map fun (merged, others) => (merged, (key, value) :: others)

def settleKeys (nodes : Nodes) (entries : List (Nat × Nat)) : Nodes :=
  entries.foldl
    (fun nodes (key, _) =>
      if nodes.hasTag key .default then nodes.setTag key .text else nodes)
    nodes

/-- The entries of maps, the last map first, once a function has carried out the merges in them
from the first to the last. Only maps can be merged. -/
def entriesOfMaps (merge : Nodes → Nat → Except Fault Nodes) (nodes : Nodes) :
    List Nat → Except Fault (List (Nat × Nat) × Nodes)
  | [] => .ok ([], nodes)
  | item :: rest =>
      match nodes.entries? item with
      | none => .error .malformed
      | some _ => do
          let nodes ← merge nodes item
          let entries := (nodes.entries? item).getD []
          let (others, nodes) ← entriesOfMaps merge nodes rest
          return (others ++ entries, nodes)

/-- The entries that a merge takes in: those of a map, or those of the maps of a list. -/
def entriesOf (merge : Nodes → Nat → Except Fault Nodes) (nodes : Nodes) (value : Nat) :
    Except Fault (List (Nat × Nat) × Nodes) :=
  match nodes.content? value with
  | some (.map _) => do
      let nodes ← merge nodes value
      return ((nodes.entries? value).getD [], nodes)
  | some (.list items) => entriesOfMaps merge nodes items
  | _ => .error .malformed

/-- Carries out the merges of a map, as many as the fuel says; `taken` are the entries that earlier
merges have taken in. -/
def mergeWithin : Nat → List (Nat × Nat) → Nodes → Nat → Except Fault Nodes
  | 0, _, _, _ => .error .malformed
  | fuel + 1, taken, nodes, map =>
      let entries := (nodes.entries? map).getD []
      match nodes.takeMerge? entries with
      | none =>
          let nodes := nodes.settleKeys entries
          .ok (if taken.isEmpty then nodes else nodes.setContent map (.map (taken ++ entries)))
      | some (value, others) => do
          let (more, nodes) ←
            entriesOf (mergeWithin fuel []) (nodes.setContent map (.map others)) value
          mergeWithin fuel (taken ++ more) nodes map

/-- The number of merges in the maps of a document. A merge that is carried out is gone, so no more
of them can be carried out. -/
def mergeCount (nodes : Nodes) : Nat :=
  nodes.foldl (fun count node =>
    match node.content with
    | .map entries => count + entries.countP fun entry => nodes.hasTag entry.1 .merge
    | _ => count) 0

def merge (nodes : Nodes) (merges map : Nat) : Except Fault Nodes :=
  nodes.mergeWithin (merges + 1) [] map

end DriverKit.Yaml.Nodes
