import Flowgraph.Proofs.Graph.Agree
import Flowgraph.Proofs.Graph.WellFormed

namespace Flowgraph

section Snapshots

variable {s : Snapshot} {types : TypeRegistry} {g : Graph}

/-- A live node records the links that the stored one does, whatever its type adds. -/
theorem NodeRecord.toNode_wiring (described : types.Described) (n : NodeRecord) :
    (n.toNode types).wiring = n.wiring := by
  have bare : ((types.instantiate? n.type).getD { type := n.type }).Bare := by
    cases found : types.find? n.type with
    | none => exact ⟨by simp [TypeRegistry.instantiate?, found],
        by simp [TypeRegistry.instantiate?, found]⟩
    | some t =>
      have template := (described n.type t found).bare
      simpa [TypeRegistry.instantiate?, found] using template
  simp only [Node.wiring, NodeRecord.wiring, NodeRecord.toNode, Wiring.mk.injEq, true_and]
  constructor
  · funext slot
    split
    · next none =>
      rw [List.isEmpty_iff.1 none]
      exact bare.into slot
    · rfl
  · funext slot
    split
    · next none =>
      rw [List.isEmpty_iff.1 none]
      exact bare.outOf slot
    · rfl

theorem Snapshot.Mirrored.withPlaceholders (m : s.Mirrored) (types : TypeRegistry) :
    (s.withPlaceholders types).Mirrored := by
  have same : (s.withPlaceholders types).nodes.map NodeRecord.wiring =
      s.nodes.map NodeRecord.wiring := by
    rw [Snapshot.withPlaceholders, List.map_map]
    apply List.map_congr_left
    intro n _
    simp only [Function.comp_apply]
    split <;> rfl
  unfold Snapshot.Mirrored
  rw [same]
  exact m

theorem Graph.wiring_ofSnapshot (described : types.Described)
    (ok : Graph.ofSnapshot s types = .ok g) :
    g.nodes.map Node.wiring = s.nodes.map NodeRecord.wiring := by
  rw [(Graph.ofSnapshot_ok ok).1, List.map_map]
  apply List.map_congr_left
  intro n _
  exact n.toNode_wiring described

theorem Graph.mem_values_ofSnapshot (ok : Graph.ofSnapshot s types = .ok g) (l : Link) :
    l ∈ g.links.values ↔ l ∈ s.links := by
  obtain ⟨_, links, sound, _⟩ := Graph.ofSnapshot_ok ok
  rw [sound.mem_values_iff, links]
  simp

theorem Snapshot.Mirrored.ofSnapshot (m : s.Mirrored) (described : types.Described)
    (ok : Graph.ofSnapshot s types = .ok g) : g.Mirrored := by
  unfold Graph.Mirrored
  rw [Graph.wiring_ofSnapshot described ok]
  exact Mirrors.congr_links m (Graph.mem_values_ofSnapshot ok)

end Snapshots

/-- The nodes, snapshots and types that an operation brings in record links only where they are. -/
def Operation.Clean : Operation → Prop
  | .addNode n => n.Bare
  | .configure s types => s.Mirrored ∧ types.Described
  | .load s r => (s.prepared r).Mirrored ∧ r.types.Described
  | _ => True

namespace Graph

variable {g g' : Graph} {op : Operation}

/-- A sound graph whose slots mirror its links. -/
structure Consistent (g : Graph) : Prop extends Sound g where
  mirrored : g.Mirrored

theorem Sound.consistent (h : g.Sound) (a : g.Agrees) : g.Consistent := ⟨h, a.mirrored h⟩

theorem Consistent.agrees (c : g.Consistent) : g.Agrees := c.mirrored.agrees c.toSound

theorem Consistent.fed (c : g.Consistent) : g.Fed := c.agrees.fed c.toSound

theorem Agrees.isolate (a : g.Agrees) (h : g.Sound) (id : NodeId) : (g.isolate id).Agrees :=
  a.detachAll h _

theorem Agrees.removeNode (a : g.Agrees) (h : g.Sound) (id : NodeId) :
    (g.removeNode id).1.Agrees := by
  cases at_ : g.index.find? id with
  | none => rwa [removeNode_of_absent at_]
  | some i =>
    rw [removeNode_eq_drop at_]
    have thin := isolate_thinner g id
    apply (a.isolate h id).drop (h.thinner thin) (by rwa [thin.index])
    intro k l found
    exact h.anchored.isolate_loose found

theorem removeNode_snd (g : Graph) (id : NodeId) :
    (g.removeNode id).2 = (g.isolate id).node? id := by
  rw [node?, (isolate_thinner g id).index]
  cases at_ : g.index.find? id with
  | none => rw [removeNode_of_absent at_]; rfl
  | some i => rw [removeNode_eq_drop at_]; rfl

theorem Consistent.removeNode_bare (c : g.Consistent) {id : NodeId} {n : Node}
    (removed : (g.removeNode id).2 = some n) : n.Bare := by
  rw [removeNode_snd] at removed
  apply (c.agrees.isolate c.toSound id).bare removed
  intro k l listed
  exact c.toSound.anchored.isolate_loose listed

theorem Sound.exists_removed (h : g.Sound) {id : NodeId} (known : g.hasNode id = true) :
    ∃ n, (g.removeNode id).2 = some n ∧ n.id = id := by
  have thin := isolate_thinner g id
  have isolated := h.thinner thin
  have kept : (g.isolate id).hasNode id = true := by rwa [hasNode, thin.index]
  obtain ⟨n, hn, hid⟩ := isolated.anchored.hasNode_iff.1 kept
  exact ⟨n, (removeNode_snd g id).trans (isolated.node?_eq_some_iff.2 ⟨hn, hid⟩), hid⟩

theorem Consistent.link_unique (c : g.Consistent) {k k' : LinkId} {l l' : Link}
    (found : g.link? k = some l) (found' : g.link? k' = some l') (target : l.target = l'.target)
    (slot : l.targetSlot = l'.targetSlot) : k = k' :=
  c.fed.link_unique found found' target slot

theorem Consistent.connect (c : g.Consistent) (b : g.Bounded) {origin target : NodeId}
    {originSlot targetSlot : Nat} {id : LinkId}
    (ok : g.connect origin originSlot target targetSlot = some (.ok (g', id))) : g'.Consistent := by
  have free := b.connect_free ok
  have sound := c.toSound.connect ok
  obtain ⟨l, rfl, rfl, rfl, filed, rfl⟩ := c.toSound.file_of_connect ok
  have agrees := c.agrees.disconnectInput c.toSound l.target l.targetSlot
  have unfed := c.fed.into_disconnectInput l.target l.targetSlot
  exact sound.consistent (agrees.join filed unfed free)

theorem Consistent.modifyNode (c : g.Consistent) {id : NodeId} {f : Node → Node}
    (keeps : Node.KeepsSlots f) : (g.modifyNode id f).Consistent :=
  (c.toSound.thinner (KeepsSlots.thinner keeps)).consistent (c.agrees.modifyNode c.toSound id keeps)

theorem Consistent.empty : Graph.empty.Consistent := Sound.empty.consistent .empty

/-- Slots and links stay in agreement: an id that is handed out is free, so the new node hides none
and the new link displaces none that its slot still records. -/
theorem Consistent.apply (c : g.Consistent) (b : g.Bounded) (clean : op.Clean)
    (done : g.apply op = some g') : g'.Consistent := by
  apply apply_cases done c
  case reported =>
    intro g id f reports c
    exact c.modifyNode reports.keepsSlots
  case edited => exact fun id e _ => c.modifyNode e.keepsSlots
  case added =>
    rintro n id rfl ok
    have free := b.addNode_free c.toSound ok
    have bare : Node.Bare { n with id := id } := ⟨clean.inputs, clean.outputs⟩
    rw [(addNode_ok ok).1]
    exact (c.toSound.push free _).consistent (c.agrees.push c.toSound bare free _)
  case removed =>
    exact fun id => (c.toSound.removeNode id).consistent (c.agrees.removeNode c.toSound id)
  case connected => exact fun o os t ts id _ ok => c.connect b ok
  case disconnected =>
    intro t slot
    exact (c.toSound.thinner (disconnectInput_thinner g t slot)).consistent
      (c.agrees.disconnectInput c.toSound t slot)
  case cleared => exact fun _ => .empty
  case grouped =>
    intro group
    have sound : (g.addGroup group).Sound :=
      ⟨c.distinct, c.indexed, c.keyed, c.leaves, c.enters⟩
    exact ⟨sound, c.mirrored⟩
  case configured =>
    rintro s types g' rfl ok
    obtain ⟨mirrored, described⟩ := clean
    exact ⟨(ofSnapshot_ok ok).2.2.1, mirrored.ofSnapshot described ok⟩
  case loaded =>
    rintro s r g' rfl ok
    obtain ⟨mirrored, described⟩ := clean
    exact ⟨(ofSnapshot_ok ok).2.2.1, (mirrored.withPlaceholders r.types).ofSnapshot described ok⟩

theorem Reachable.consistent (h : Reachable (fun _ op => op.Clean) g) : g.Consistent := by
  have kept : g.Consistent ∧ g.Bounded := by
    apply h.invariant (P := fun g => g.Consistent ∧ g.Bounded)
    · exact ⟨.empty, .empty⟩
    · exact fun g op g' clean done kept => ⟨kept.1.apply kept.2 clean done, kept.2.apply done⟩
  exact kept.1

/-- Slots and links are mirror images after every run of clean operations: no two links feed one
slot, and nodes that are there come back bare when they are removed. -/
theorem Reachable.slots_mirror_links (h : Reachable (fun _ op => op.Clean) g) :
    g.Mirrored ∧
      (∀ k k' l l', g.link? k = some l → g.link? k' = some l' → l.target = l'.target →
        l.targetSlot = l'.targetSlot → k = k') ∧
      (∀ id n, (g.removeNode id).2 = some n → n.Bare) ∧
      ∀ id, g.hasNode id = true → ∃ n, (g.removeNode id).2 = some n ∧ n.id = id := by
  have c := h.consistent
  refine ⟨c.mirrored, ?_, ?_, ?_⟩
  · exact fun k k' l l' found found' target slot => c.link_unique found found' target slot
  · exact fun id n removed => c.removeNode_bare removed
  · exact fun id known => c.toSound.exists_removed known

/-- A loop and a link into the same slot make way for one another, and an end of theirs goes. -/
theorem mirrored_after_loop :
    let both : Node := {
      type := "Both"
      inputs := [{ name := "a" }, { name := "b" }]
      outputs := [{ name := "out" }] }
    ∃ g, Graph.empty.run [.addNode both, .addNode both, .connect 1 0 1 0, .connect 2 0 1 0,
        .connect 1 0 1 1, .removeNode 2] = some g ∧
      g.links.values.map (·.id) = [3] ∧ g.Mirrored := by
  intro both
  have bare : both.Bare := ⟨by simp [both], by simp [both]⟩
  have links : (Graph.empty.run [.addNode both, .addNode both, .connect 1 0 1 0, .connect 2 0 1 0,
      .connect 1 0 1 1, .removeNode 2]).map (·.links.values.map (·.id)) = some [3] := by decide
  obtain ⟨g, ran, ids⟩ := Option.map_eq_some_iff.1 links
  have reachable : Reachable (fun _ op => op.Clean) g :=
    .of_run .empty (by simp [Operation.Clean, bare]) ran
  exact ⟨g, ran, ids, reachable.slots_mirror_links.1⟩

end Graph

end Flowgraph
