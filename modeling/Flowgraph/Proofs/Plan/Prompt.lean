import Flowgraph.Plan.Compile
import Flowgraph.Proofs.Graph.Order
import Flowgraph.Proofs.Graph.Slots

namespace Flowgraph

def Node.unremembering (n : Node) : Node := { n with remembered := none }

/-- A node with nothing but what is compiled of it. -/
def Node.compiled (n : Node) : Node where
  id := n.id
  type := n.type
  title := n.title
  mode := n.mode
  inputs := n.inputs
  widgets := n.widgets

namespace Graph

variable {g g' : Graph}

theorem planEntry?_eq_some_iff {id : NodeId} {e : NodeId × PlanNode} :
    g.planEntry? id = some e ↔
      ∃ n, g.node? id = some n ∧ n.mode ≠ .never ∧ e = (id, g.planNode n) := by
  unfold planEntry?
  constructor
  · intro planned
    obtain ⟨n, found, entry⟩ := Option.bind_eq_some_iff.1 planned
    split at entry
    · cases entry
    · next runs =>
      cases entry
      exact ⟨n, found, runs, rfl⟩
  · rintro ⟨n, found, runs, rfl⟩
    rw [found]
    exact if_neg runs

theorem find?_prompt (a : g.Anchored) (id : NodeId) :
    g.prompt.find? id = (Option.map Prod.snd <| g.planEntry? id) := by
  -- An id may be listed more than once, but with one entry.
  have entries {k : NodeId} {p : PlanNode} (found : g.prompt.find? k = some p) :
      g.planEntry? k = some (k, p) := by
    have listed := (SortedMap.mem_of_find?_insertMany found).resolve_right (by simp)
    obtain ⟨k', _, planned⟩ := List.mem_filterMap.1 listed
    obtain ⟨n, _, _, eq⟩ := planEntry?_eq_some_iff.1 planned
    obtain rfl : k = k' := congrArg Prod.fst eq
    exact planned
  apply Option.ext
  intro p
  rw [Option.map_eq_some_iff]
  constructor
  · intro found
    exact ⟨_, entries found, rfl⟩
  · rintro ⟨e, planned, rfl⟩
    obtain ⟨n, found, _, rfl⟩ := planEntry?_eq_some_iff.1 planned
    have listed : id ∈ g.executionOrder := mem_executionOrder_iff.2 ⟨n, a.mem_of_node? found⟩
    have written : g.prompt.contains id = true := by
      apply SortedMap.contains_insertMany
      exact .inl (List.mem_map_of_mem (f := Prod.fst) (List.mem_filterMap.2 ⟨id, listed, planned⟩))
    obtain ⟨p, there⟩ := Option.isSome_iff_exists.1 written
    cases planned.symm.trans (entries there)
    exact there

/-- Graphs with the same links that show the same nodes, as far as nodes are compiled, compile to
the same plan. -/
theorem prompt_congr (a : g.Anchored) (a' : g'.Anchored) (links : g'.links = g.links)
    (nodes : ∀ id, (g'.node? id).map Node.compiled = (g.node? id).map Node.compiled) :
    g'.prompt = g.prompt := by
  have feeds (id : NodeId) (slot : Nat) : g'.inputLink? id slot = g.inputLink? id slot := by
    have recorded (g : Graph) : g.into id slot =
        (((g.node? id).map Node.compiled).bind (·.inputs[slot]?)).bind (·.link) := by
      rw [Option.bind_map]
      rfl
    have stored : g'.link? = g.link? := funext fun k => congrArg (·.find? k) links
    rw [inputLink?_eq_bind_into, inputLink?_eq_bind_into, recorded, recorded, nodes, stored]
  have told (n : Node) : g'.planNode n.compiled = g.planNode n := by
    simp only [planNode, linkInputs, feeds]
    rfl
  have planned (g : Graph) (id : NodeId) : (Option.map Prod.snd <| g.planEntry? id) =
      ((g.node? id).map Node.compiled).bind fun n =>
        if n.mode = .never then none else some (g.planNode n) := by
    unfold planEntry?
    cases g.node? id with
    | none => rfl
    | some n =>
      by_cases runs : n.mode = .never <;> simp [Node.compiled, runs]
      rfl
  apply SortedMap.ext_find?
  intro id
  rw [find?_prompt a', find?_prompt a, planned, planned, nodes]
  cases g.node? id with
  | none => rfl
  | some n =>
    have same : g'.planNode n.compiled = g.planNode n.compiled := told n.compiled
    simp only [Option.map_some, Option.bind_some, same]

end Graph

end Flowgraph
