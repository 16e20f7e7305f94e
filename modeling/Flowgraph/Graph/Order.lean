import Flowgraph.Graph.Basic

namespace Flowgraph

namespace Graph

/-- The number of input slots of a node that a link of the table feeds. -/
def boundInputs (g : Graph) (n : Node) : Nat :=
  n.inputs.countP fun s => (s.link.bind g.link?).isSome

/-- A state of the ordering: the nodes that are ready, the numbers of links that the others wait
for, and the links followed so far. -/
structure Front where
  ready : List NodeId
  waiting : SortedMap NodeId Nat
  followed : SortedMap LinkId Unit

/-- At the start the nodes without bound inputs are ready, as they were added. -/
def Front.start (g : Graph) : Front where
  ready := (g.nodes.filter fun n => g.boundInputs n = 0).map (·.id)
  waiting := .ofList ((g.nodes.filter fun n => g.boundInputs n ≠ 0).map
    fun n => (n.id, g.boundInputs n))
  followed := .empty

/-- Follows a link out of a placed node, once. Its target becomes ready when it waits for no
other. -/
def Front.follow (g : Graph) (f : Front) (id : LinkId) : Front :=
  match g.link? id with
  | none => f
  | some link =>
    if f.followed.contains link.id then f
    else
      let f := { f with followed := f.followed.insert link.id () }
      match f.waiting.find? link.target with
      | none => f
      | some count =>
        if count - 1 = 0 then
          { f with ready := f.ready ++ [link.target], waiting := f.waiting.erase link.target }
        else { f with waiting := f.waiting.insert link.target (count - 1) }

/-- The links recorded in the output slots of a node. -/
def outgoing (g : Graph) (id : NodeId) : List LinkId :=
  match g.node? id with
  | some n => n.outputs.flatMap (·.links)
  | none => []

/-- Places ready nodes one after another, and the waiting ones by id in the end. A node becomes
ready once, so as many steps as there are nodes suffice. -/
def place (g : Graph) : Nat → Front → List NodeId
  | 0, f => f.waiting.keys
  | steps + 1, f =>
    match f.ready with
    | [] => f.waiting.keys
    | id :: ready => id :: place g steps ((g.outgoing id).foldl (Front.follow g) { f with ready })

def executionOrder (g : Graph) : List NodeId := g.place g.nodes.length (Front.start g)

end Graph

end Flowgraph
