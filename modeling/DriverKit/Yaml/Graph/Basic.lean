import DriverKit.Yaml.Tag

/-!
# Graphs

The values of a document before they are given a meaning: texts, lists and maps, each with the tag
that says what kind of value it is. Every value is a node with a number, and an alias is the number
of what it stands for. So a node can lie in several collections, and a collection in itself.
-/

namespace DriverKit.Yaml

inductive Content where
  | text (characters : String)
  | list (items : List Nat)
  | map (entries : List (Nat × Nat))
deriving DecidableEq, Inhabited, Repr

/-- A value of a document with its tag. -/
structure Node where
  tag : Tag
  content : Content
deriving DecidableEq, Repr

def Node.empty : Node := ⟨.null, .text ""⟩

abbrev Nodes := Array Node

namespace Nodes

def hasTag (nodes : Nodes) (number : Nat) (tag : Tag) : Bool :=
  (nodes[number]?).any fun node => node.tag == tag

def content? (nodes : Nodes) (number : Nat) : Option Content :=
  (nodes[number]?).map Node.content

def entries? (nodes : Nodes) (number : Nat) : Option (List (Nat × Nat)) :=
  match nodes.content? number with
  | some (.map entries) => some entries
  | _ => none

def setTag (nodes : Nodes) (number : Nat) (tag : Tag) : Nodes :=
  nodes.modify number fun node => { node with tag := tag }

def setContent (nodes : Nodes) (number : Nat) (content : Content) : Nodes :=
  nodes.modify number fun node => { node with content := content }

end Nodes

structure Graph where
  nodes : Nodes
  root : Nat
deriving Repr

def Graph.empty : Graph := ⟨#[.empty], 0⟩

end DriverKit.Yaml
