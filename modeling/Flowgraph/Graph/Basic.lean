import Flowgraph.Graph.Node

namespace Flowgraph

open Json

/-- A graph of nodes and links. The slots of the nodes record the links as well. -/
structure Graph where
  /-- The nodes, in the order in which they were added. -/
  nodes : List Node := []
  /-- Where each node stands among the nodes. -/
  index : SortedMap NodeId Nat := .empty
  links : LinkTable := .empty
  groups : List Value := []
  config : Members := []
  extra : Members := []
  /-- Members of the snapshot that are kept and not interpreted. -/
  other : Members := []
  /-- The largest node id given out so far. -/
  lastNode : NodeId := 0
  /-- The largest link id given out so far. -/
  lastLink : LinkId := 0
deriving Inhabited

namespace Graph

def empty : Graph := {}

def size (g : Graph) : Nat := g.nodes.length

def node? (g : Graph) (id : NodeId) : Option Node := do g.nodes[← g.index.find? id]?

def hasNode (g : Graph) (id : NodeId) : Bool := g.index.contains id

def link? (g : Graph) (id : LinkId) : Option Link := g.links.find? id

def modifyNode (g : Graph) (id : NodeId) (f : Node → Node) : Graph :=
  match g.index.find? id with
  | some i => { g with nodes := g.nodes.modify i f }
  | none => g

def modifyInput (g : Graph) (id : NodeId) (slot : Nat) (f : InputSlot → InputSlot) : Graph :=
  g.modifyNode id fun n => { n with inputs := n.inputs.modify slot f }

def modifyOutput (g : Graph) (id : NodeId) (slot : Nat) (f : OutputSlot → OutputSlot) : Graph :=
  g.modifyNode id fun n => { n with outputs := n.outputs.modify slot f }

def inputLink? (g : Graph) (id : NodeId) (slot : Nat) : Option Link := do
  let n ← g.node? id
  let s ← n.inputs[slot]?
  g.link? (← s.link)

/-- The positions of nodes by id. -/
def indexOf (nodes : List Node) : SortedMap NodeId Nat :=
  .ofList (nodes.mapIdx fun i n => (n.id, i))

end Graph

end Flowgraph
