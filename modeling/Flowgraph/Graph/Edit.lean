import Flowgraph.Graph.Basic
import Flowgraph.Error

namespace Flowgraph

open Json

/-- Drops a link from the output slot where it starts. -/
def OutputSlot.drop (id : LinkId) (s : OutputSlot) : OutputSlot :=
  { s with links := s.links.filter (· != id) }

/-- Records a link in the output slot where it starts. -/
def OutputSlot.add (id : LinkId) (s : OutputSlot) : OutputSlot :=
  { s with links := s.links ++ [id] }

/-- Records a link in the input slot where it ends. -/
def InputSlot.fill (id : LinkId) (s : InputSlot) : InputSlot := { s with link := some id }

def InputSlot.drop (id : LinkId) (s : InputSlot) : InputSlot :=
  if s.link = some id then { s with link := none } else s

namespace Graph

/-- The id that a node gets: its own if that is positive and free, and the next one otherwise. -/
def idFor? (g : Graph) (n : Node) : Option NodeId :=
  if n.id ≤ 0 ∨ g.hasNode n.id then nextId? g.lastNode else some n.id

/-- Adds a node and answers its id. -/
def addNode (g : Graph) (n : Node) : Option (Graph × NodeId) := do
  let id ← g.idFor? n
  return ({ g with
      nodes := g.nodes ++ [{ n with id := id }]
      index := g.index.insert id g.nodes.length
      lastNode := max g.lastNode id }, id)

/-- Takes a link out of the table and out of the slots at its ends. -/
def detachLink (g : Graph) (id : LinkId) : Graph × Option Link :=
  match g.link? id with
  | none => (g, none)
  | some link =>
    let g := { g with links := g.links.erase id }
    let g := g.modifyOutput link.origin link.originSlot (OutputSlot.drop id)
    let g := g.modifyInput link.target link.targetSlot (InputSlot.drop id)
    (g, some link)

/-- The links that start or end at a node. -/
def linksAt (g : Graph) (id : NodeId) : List LinkId :=
  (g.links.values.filter fun l => l.origin = id ∨ l.target = id).map (·.id)

/-- Removes a node and every link at it; answers the node as it was without its links. -/
def removeNode (g : Graph) (id : NodeId) : Graph × Option Node :=
  match g.index.find? id with
  | none => (g, none)
  | some i =>
    let g := (g.linksAt id).foldl (fun g l => (g.detachLink l).1) g
    let nodes := g.nodes.eraseIdx i
    ({ g with nodes := nodes, index := indexOf nodes }, g.nodes[i]?)

def disconnectInput (g : Graph) (target : NodeId) (slot : Nat) : Graph × Option Link :=
  match (do (← (← g.node? target).inputs[slot]?).link) with
  | none => (g, none)
  | some link => g.detachLink link

/-- The type of a link between two slots, if they exist. -/
def linkType (g : Graph) (origin : NodeId) (originSlot : Nat) (target : NodeId) (targetSlot : Nat) :
    Except GraphError Value := do
  let some o := g.node? origin | throw (.nodeNotFound origin)
  let some out := o.outputs[originSlot]? | throw (.noOutputSlot origin originSlot)
  let some t := g.node? target | throw (.nodeNotFound target)
  if t.inputs.length ≤ targetSlot then throw (.noInputSlot target targetSlot)
  return out.type

/-- Connects an output slot to an input slot, in place of any link that feeds it already. -/
def connect (g : Graph) (origin : NodeId) (originSlot : Nat) (target : NodeId) (targetSlot : Nat) :
    Option (Except GraphError (Graph × LinkId)) :=
  match g.linkType origin originSlot target targetSlot with
  | .error e => some (.error e)
  | .ok type => do
    let g := (g.disconnectInput target targetSlot).1
    let id ← nextId? g.lastLink
    let g := { g with
      lastLink := id
      links := g.links.insert id ⟨id, origin, originSlot, target, targetSlot, type⟩ }
    let g := g.modifyOutput origin originSlot (OutputSlot.add id)
    let g := g.modifyInput target targetSlot (InputSlot.fill id)
    return .ok (g, id)

def addGroup (g : Graph) (group : Value) : Graph := { g with groups := g.groups ++ [group] }

end Graph

end Flowgraph
