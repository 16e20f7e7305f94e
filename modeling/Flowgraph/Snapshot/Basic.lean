import Flowgraph.Graph.Basic

namespace Flowgraph

open Json

/-- The stored form of a node. -/
structure NodeRecord where
  id : NodeId
  type : String
  title : Option String := none
  mode : Nat := 0
  inputs : List InputSlot := []
  outputs : List OutputSlot := []
  properties : Members := []
  widgetValues : List Value := []
  color : Option String := none
  bodyColor : Option String := none
  /-- Members that are kept and not interpreted, such as positions and sizes. -/
  layout : Members := []
deriving Inhabited, Repr

/-- The stored form of a graph. -/
structure Snapshot where
  lastNode : NodeId := 0
  lastLink : LinkId := 0
  nodes : List NodeRecord := []
  links : List Link := []
  groups : List Value := []
  config : Members := []
  extra : Members := []
  /-- The version of the program that wrote the snapshot. -/
  version : String := ""
  checksum : String := ""
  /-- Members that are kept and not interpreted. -/
  other : Members := []
deriving Inhabited, Repr

/-- The stored form of a live node. Values that no widget takes follow those of the widgets. -/
def Node.toRecord (n : Node) : NodeRecord where
  id := n.id
  type := n.type
  title := some n.title
  mode := n.mode.code
  inputs := n.inputs
  outputs := n.outputs
  properties := n.properties
  widgetValues := n.widgets.map (·.value) ++ n.unbound
  color := n.color
  bodyColor := n.bodyColor
  layout := n.layout

/-- Node records in ascending order of their ids; records with one id keep their order. -/
def sortById (ns : List NodeRecord) : List NodeRecord := ns.mergeSort fun a b => a.id ≤ b.id

/-- The snapshot of a graph, without version and checksum. -/
def Graph.toSnapshot (g : Graph) : Snapshot where
  lastNode := g.lastNode
  lastLink := g.lastLink
  nodes := sortById (g.nodes.map Node.toRecord)
  links := g.links.values
  groups := g.groups
  config := g.config
  extra := g.extra
  other := g.other

end Flowgraph
