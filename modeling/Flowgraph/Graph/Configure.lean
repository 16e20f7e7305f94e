import Flowgraph.Error
import Flowgraph.Extension.NodeType
import Flowgraph.Snapshot.Basic

namespace Flowgraph

open Json

/-- Gives the widgets the leading values of a list; the rest is left over. -/
def fillWidgets : List Widget → List Value → List Widget × List Value
  | [], vs => ([], vs)
  | ws, [] => (ws, [])
  | w :: ws, v :: vs =>
    let (ws, rest) := fillWidgets ws vs
    ({ w with value := v } :: ws, rest)

/-- The live node of a stored one: the template of its type, or a bare node if the type is not
registered, with what the stored node says in place of what the template says. -/
def NodeRecord.toNode (n : NodeRecord) (types : TypeRegistry) : Node :=
  let base := (types.instantiate? n.type).getD { type := n.type }
  let (widgets, unbound) := fillWidgets base.widgets n.widgetValues
  { base with
    id := n.id
    title := n.title.getD base.title
    mode := .ofCode n.mode
    inputs := if n.inputs.isEmpty then base.inputs else n.inputs
    outputs := if n.outputs.isEmpty then base.outputs else n.outputs
    properties := Members.putAll base.properties n.properties
    widgets := widgets
    unbound := unbound
    color := n.color.or base.color
    bodyColor := n.bodyColor.or base.bodyColor
    layout := n.layout }

namespace Graph

def configureNode (types : TypeRegistry) (g : Graph) (n : NodeRecord) : Except GraphError Graph :=
  if g.hasNode n.id then .error (.duplicateNode n.id)
  else .ok { g with
    nodes := g.nodes ++ [n.toNode types]
    index := g.index.insert n.id g.nodes.length
    lastNode := max g.lastNode n.id }

/-- Whether both ends of a link are slots of the graph. -/
def admits (g : Graph) (l : Link) : Bool :=
  ((g.node? l.origin).any fun n => l.originSlot < n.outputs.length) &&
    (g.node? l.target).any fun n => l.targetSlot < n.inputs.length

def configureLink (g : Graph) (l : Link) : Except GraphError Graph :=
  if !g.admits l then .error (.danglingLink l)
  else if g.links.contains l.id then .error (.duplicateLink l.id)
  else .ok { g with
    links := g.links.insert l.id l
    lastLink := max g.lastLink l.id }

/-- The graph that a snapshot describes. Fails on a repeated id and on a link without ends. -/
def ofSnapshot (s : Snapshot) (types : TypeRegistry) : Except GraphError Graph := do
  let g ← s.nodes.foldlM (configureNode types)
    { groups := s.groups, config := s.config, extra := s.extra, other := s.other }
  let g ← s.links.foldlM configureLink g
  return { g with lastNode := max g.lastNode s.lastNode, lastLink := max g.lastLink s.lastLink }

end Graph

end Flowgraph
