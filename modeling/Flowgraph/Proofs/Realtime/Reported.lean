import Flowgraph.Plan.Compile
import Flowgraph.Proofs.Plan.Checksum
import Flowgraph.Proofs.Realtime.Footprint

namespace Flowgraph

open Json

namespace Node

variable {n n' : Node}

def unreported (n : Node) : Node :=
  { n with properties := [], color := none, bodyColor := none, remembered := none }

theorem Reported.unreported (r : n.Reported n') : n'.unreported = n.unreported := by
  have same := congrArg Node.unreported r.rest
  exact same

section Lookups

variable {o o' o'' : Option Node}

theorem reported_trans (first : Option.Rel Reported o o') (second : Option.Rel Reported o' o'') :
    Option.Rel Reported o o'' := by
  cases first with
  | none => exact second
  | some first =>
    cases second with
    | some second => exact .some (first.trans second)

theorem map_unreported (r : Option.Rel Reported o o') :
    o'.map Node.unreported = o.map Node.unreported := by
  cases r with
  | none => rfl
  | some reported => exact congrArg some reported.unreported

end Lookups

end Node

namespace Graph

variable {g g' g'' : Graph} {ids ids' : List NodeId}

/-- A graph and the same graph after reports about some nodes, namely those that are found under
certain ids. -/
structure ReportedAt (ids : List NodeId) (g g' : Graph) : Prop where
  rest : { g' with nodes := g.nodes } = g
  nodes : ∀ i : Nat, Option.Rel Node.Reported g.nodes[i]? g'.nodes[i]?
  unnamed : ∀ i : Nat, (∀ id ∈ ids, g.index.find? id ≠ some i) → g'.nodes[i]? = g.nodes[i]?

namespace ReportedAt

theorem refl (ids : List NodeId) (g : Graph) : g.ReportedAt ids g where
  rest := rfl
  nodes i := by
    cases g.nodes[i]? with
    | none => exact .none
    | some n => exact .some (.refl n)
  unnamed _ _ := rfl

theorem index (r : ReportedAt ids g g') : g'.index = g.index := by
  have same := congrArg Graph.index r.rest
  exact same

theorem trans (first : ReportedAt ids g g') (second : ReportedAt ids g' g'') :
    ReportedAt ids g g'' where
  rest := by
    have rest := first.rest
    rw [← second.rest] at rest
    exact rest
  nodes i := Node.reported_trans (first.nodes i) (second.nodes i)
  unnamed i unnamed := by
    rw [second.unnamed i, first.unnamed i unnamed]
    rw [first.index]
    exact unnamed

theorem mono (r : ReportedAt ids g g') (sub : ids ⊆ ids') : ReportedAt ids' g g' where
  rest := r.rest
  nodes := r.nodes
  unnamed i unnamed := r.unnamed i fun id hid => unnamed id (sub hid)

theorem modifyNode {id : NodeId} (hid : id ∈ ids) {f : Node → Node}
    (reported : ∀ n : Node, n.Reported (f n)) : g.ReportedAt ids (g.modifyNode id f) := by
  unfold Graph.modifyNode
  split
  · next i found =>
    constructor
    case rest => rfl
    case nodes =>
      intro j
      rw [List.getElem?_modify]
      cases g.nodes[j]? with
      | none => exact .none
      | some n =>
        apply Option.Rel.some
        split
        · exact reported n
        · exact .refl n
    case unnamed =>
      intro j unnamed
      have other : i ≠ j := by
        rintro rfl
        exact unnamed id hid found
      rw [List.getElem?_modify]
      simp [other]
  · exact .refl ids g

end ReportedAt

def unreported (g : Graph) : Graph := { g with nodes := g.nodes.map Node.unreported }

theorem ReportedAt.unreported (r : ReportedAt ids g g') : g'.unreported = g.unreported := by
  have nodes : g'.nodes.map Node.unreported = g.nodes.map Node.unreported := by
    apply List.ext_getElem?
    intro i
    rw [List.getElem?_map, List.getElem?_map]
    exact Node.map_unreported (r.nodes i)
  have rest := congrArg (fun h : Graph => { h with nodes := g.nodes.map Node.unreported }) r.rest
  rw [Graph.unreported, nodes]
  exact rest

theorem ReportedAt.thinner (r : ReportedAt ids g g') : Thinner g' g where
  ports := by
    have ports (g : Graph) : g.unreported.nodes.map Node.ports = g.nodes.map Node.ports :=
      List.map_map
    rw [← ports g', ← ports g, r.unreported]
  index := r.index
  links id l found := by
    have same := congrArg Graph.links r.rest
    rw [← same]
    exact found
  lastNode := by
    have same := congrArg Graph.lastNode r.rest
    exact same
  lastLink := by
    have same := congrArg Graph.lastLink r.rest
    exact same

theorem unreported_structureValue (g : Graph) :
    g.unreported.toSnapshot.structureValue = g.toSnapshot.structureValue := by
  apply structureValue_congr
  case types =>
    intro id
    simp only [typesAt, Graph.unreported, List.filter_map, List.map_map]
    rfl
  all_goals rfl

theorem unreported_node? (g : Graph) (id : NodeId) :
    g.unreported.node? id = (g.node? id).map Node.unreported := by
  unfold node?
  cases found : g.index.find? id with
  | none => simp [Graph.unreported, found]
  | some i => simp [Graph.unreported, found]

theorem unreported_outgoing (g : Graph) (id : NodeId) :
    g.unreported.outgoing id = g.outgoing id := by
  rw [outgoing, outgoing, unreported_node?]
  cases g.node? id <;> rfl

theorem unreported_place (g : Graph) (steps : Nat) (f : Front) :
    g.unreported.place steps f = g.place steps f := by
  induction steps generalizing f with
  | zero => rfl
  | succ steps ih =>
    rw [place, place]
    split
    · rfl
    · rw [ih, unreported_outgoing]
      rfl

theorem unreported_executionOrder (g : Graph) :
    g.unreported.executionOrder = g.executionOrder := by
  have start : Front.start g.unreported = Front.start g := by
    simp only [Front.start, Graph.unreported, List.filter_map, List.map_map]
    rfl
  have size : g.unreported.nodes.length = g.nodes.length := List.length_map _
  rw [executionOrder, executionOrder, unreported_place, start, size]

theorem unreported_planNode (g : Graph) (n : Node) :
    g.unreported.planNode n.unreported = g.planNode n := by
  have feeds (id : NodeId) (slot : Nat) :
      g.unreported.inputLink? id slot = g.inputLink? id slot := by
    rw [inputLink?, inputLink?, unreported_node?]
    cases g.node? id <;> rfl
  simp only [planNode, linkInputs, feeds]
  rfl

theorem unreported_prompt (g : Graph) : g.unreported.prompt = g.prompt := by
  have planned (id : NodeId) : g.unreported.planEntry? id = g.planEntry? id := by
    unfold planEntry?
    rw [unreported_node?]
    cases g.node? id with
    | none => rfl
    | some n =>
      simp only [Option.map_some, Option.bind_eq_bind, Option.bind_some, unreported_planNode]
      rfl
  rw [prompt, prompt, unreported_executionOrder, funext planned]

theorem ReportedAt.structureValue (r : ReportedAt ids g g') :
    g'.toSnapshot.structureValue = g.toSnapshot.structureValue := by
  rw [← unreported_structureValue g', ← unreported_structureValue g, r.unreported]

theorem ReportedAt.checksum (r : ReportedAt ids g g') :
    g'.serialize.checksum = g.serialize.checksum := by
  rw [serialize_checksum, serialize_checksum]
  exact Snapshot.structuralChecksum_congr r.structureValue

theorem ReportedAt.prompt (r : ReportedAt ids g g') : g'.prompt = g.prompt := by
  rw [← unreported_prompt g', ← unreported_prompt g, r.unreported]

theorem ReportedAt.planChecksum (r : ReportedAt ids g g') :
    g'.compile.checksum = g.compile.checksum := by
  have told (g : Graph) : g.compile.checksum =
      Flowgraph.planChecksum g.prompt g.serialize.checksum := rfl
  rw [told, told, r.prompt, r.checksum]

end Graph

end Flowgraph
