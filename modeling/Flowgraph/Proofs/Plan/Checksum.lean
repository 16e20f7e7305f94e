import Flowgraph.Plan.Basic
import Flowgraph.Proofs.Graph.WellFormed
import Flowgraph.Proofs.Json.Printer
import Flowgraph.Proofs.Snapshot.Checksum

namespace Flowgraph

open Json

section Graphs

namespace Graph

variable {g g' : Graph}

/-- The types of the nodes with an id, as they were added. -/
def typesAt (g : Graph) (id : NodeId) : List String :=
  (g.nodes.filter fun n => n.id = id).map (·.type)

theorem Sound.typesAt (h : g.Sound) (id : NodeId) :
    g.typesAt id = ((g.node? id).map (·.type)).toList := by
  cases found : g.node? id with
  | none =>
    have none : ∀ n ∈ g.nodes, ¬n.id = id := by
      intro n hn same
      rw [h.node?_eq_some_iff.2 ⟨hn, same⟩] at found
      cases found
    have empty : g.nodes.filter (fun n => n.id = id) = [] := by
      simpa [List.filter_eq_nil_iff] using none
    rw [Graph.typesAt, empty]
    rfl
  | some n =>
    obtain ⟨hn, hid⟩ := h.node?_eq_some_iff.1 found
    have one : g.nodes.filter (fun n => n.id = id) = [n] := by
      have distinct : (g.nodes.filter fun n => n.id = id).Nodup :=
        (List.Nodup.of_map _ h.distinct).sublist List.filter_sublist
      refine List.perm_singleton.1 ((List.perm_ext_iff_of_nodup distinct (List.nodup_singleton n)).2
        fun m => ?_)
      rw [List.mem_filter, List.mem_singleton, decide_eq_true_eq, ← h.node?_eq_some_iff, found,
        Option.some.injEq]
      exact eq_comm
    rw [Graph.typesAt, one]
    rfl

/-- Nodes in another order have the same stubs if each id has the same types in both. -/
theorem stubs_congr (types : ∀ id, g.typesAt id = g'.typesAt id) :
    g.toSnapshot.stubs = g'.toSnapshot.stubs := by
  have under (g : Graph) (id : NodeId) :
      (g.nodes.map fun n => (n.id, n.type)).filter (·.1 = id) = (g.typesAt id).map (id, ·) := by
    rw [Graph.typesAt, List.filter_map, List.map_map]
    refine List.map_congr_left fun n hn => ?_
    have same : n.id = id := by simpa using (List.mem_filter.1 hn).2
    rw [Function.comp_apply, same]
  rw [stubs_toSnapshot, stubs_toSnapshot]
  refine sortBy_congr fun id => ?_
  rw [under, under, types]

theorem structureValue_congr (lastNode : g.lastNode = g'.lastNode)
    (lastLink : g.lastLink = g'.lastLink) (links : g.links = g'.links)
    (groups : g.groups = g'.groups) (types : ∀ id, g.typesAt id = g'.typesAt id) :
    g.toSnapshot.structureValue = g'.toSnapshot.structureValue := by
  have values : g.toSnapshot.links = g'.toSnapshot.links := congrArg SortedMap.values links
  exact Snapshot.structureValue_eq_iff.2 ⟨lastNode, lastLink, values, groups, stubs_congr types⟩

theorem serialize_checksum_congr (lastNode : g.lastNode = g'.lastNode)
    (lastLink : g.lastLink = g'.lastLink) (links : g.links = g'.links)
    (groups : g.groups = g'.groups) (types : ∀ id, g.typesAt id = g'.typesAt id) :
    g.serialize.checksum = g'.serialize.checksum := by
  rw [serialize_checksum, serialize_checksum]
  apply Snapshot.structuralChecksum_congr
  exact structureValue_congr lastNode lastLink links groups types

end Graph

end Graphs

section Plans

theorem PlanNode.encode_injective : Function.Injective PlanNode.encode := by
  rintro ⟨⟩ ⟨⟩ same
  simpa [PlanNode.encode] using same

theorem Prompt.encode_injective : Function.Injective Prompt.encode := by
  rintro ⟨es, h⟩ ⟨es', h'⟩ same
  have entries : es = es' := by
    refine List.map_injective_iff.2 ?_ (Value.object.inj same)
    rintro ⟨id, n⟩ ⟨id', n'⟩ pair
    simp only [Prod.mk.injEq] at pair
    have ids := integerText_inj (String.ofList_injective pair.1)
    rw [ids, PlanNode.encode_injective pair.2]
  subst entries
  rfl

theorem planValue_eq_iff {p p' : Prompt} {w w' : String} :
    planValue p w = planValue p' w' ↔ p = p' ∧ w = w' := by
  simp [planValue, Prompt.encode_injective.eq_iff]

end Plans

/-- Checksums are digests of texts. That of a snapshot tells the counters, the links, the groups and
the types of the nodes by id, and nothing else; so graphs that agree on these have one checksum,
whatever else they hold. That of a plan tells the nodes and the checksum of the workflow. -/
theorem digested_texts :
    (∀ s : Snapshot, s.structuralChecksum = Digest.ofText s.structureValue.compact) ∧
    (∀ (p : Prompt) (w : String), planChecksum p w = Digest.ofText (planValue p w).compact) ∧
    (∀ s s' : Snapshot, Value.PrintApart s.structureValue.floats s'.structureValue.floats →
      (s.structureValue.compact = s'.structureValue.compact ↔
        s.lastNode = s'.lastNode ∧ s.lastLink = s'.lastLink ∧ s.links = s'.links ∧
          s.groups = s'.groups ∧ s.stubs = s'.stubs)) ∧
    (∀ g g' : Graph, g.lastNode = g'.lastNode → g.lastLink = g'.lastLink → g.links = g'.links →
      g.groups = g'.groups → (∀ id, g.typesAt id = g'.typesAt id) →
        g.serialize.checksum = g'.serialize.checksum) ∧
    (∀ g g' : Graph, g.Sound → g'.Sound → g.lastNode = g'.lastNode → g.lastLink = g'.lastLink →
      g.links = g'.links → g.groups = g'.groups →
        (∀ id, (g.node? id).map (·.type) = (g'.node? id).map (·.type)) →
          g.serialize.checksum = g'.serialize.checksum) ∧
    ∀ (p p' : Prompt) (w w' : String),
      Value.PrintApart (planValue p w).floats (planValue p' w').floats →
        ((planValue p w).compact = (planValue p' w').compact ↔ p = p' ∧ w = w') := by
  refine ⟨fun s => rfl, fun p w => rfl, fun s s' apart => ?_, ?_, ?_, fun p p' w w' apart => ?_⟩
  · rw [← Snapshot.structureValue_eq_iff]
    exact ⟨Value.compact_inj apart, congrArg Value.compact⟩
  · exact fun g g' lastNode lastLink links groups types =>
      Graph.serialize_checksum_congr lastNode lastLink links groups types
  · intro g g' sound sound' lastNode lastLink links groups types
    apply Graph.serialize_checksum_congr lastNode lastLink links groups
    intro id
    rw [sound.typesAt, sound'.typesAt, types]
  · rw [← planValue_eq_iff]
    exact ⟨Value.compact_inj apart, congrArg Value.compact⟩

/-- Groups that differ in a double, nodes that were added in another order, and an input whose name
looks like two. -/
theorem digested_texts_of_lookalikes :
    let half : Value := .number (.float 0x3FE0000000000000)
    let s : Snapshot := { groups := [.object [("a", half)]] }
    let s' : Snapshot := { groups := [.object [("a", .number (.float 0x3FF8000000000000))]] }
    let source : Node := { id := 1, type := "Source" }
    let sink : Node := { id := 2, type := "Sink", title := "Drain" }
    let other : Node := { id := 2, type := "Sink", title := "End" }
    let p : Prompt := .ofList [(-1, ⟨[("a\":0.5,\"b", half)], "T", "n"⟩)]
    let p' : Prompt := .ofList [(-1, ⟨[("a", half), ("b", half)], "T", "n"⟩)]
    s.structureValue.compact ≠ s'.structureValue.compact ∧
      (∃ g g', Graph.empty.run [.addNode source, .addNode sink] = some g ∧
        Graph.empty.run [.addNode other, .addNode source] = some g' ∧
        g.serialize.checksum = g'.serialize.checksum) ∧
      (planValue p "w").compact ≠ (planValue p' "w").compact := by
  intro half s s' source sink other p p'
  let g := (Graph.empty.run [.addNode source, .addNode sink]).get (by decide)
  let g' := (Graph.empty.run [.addNode other, .addNode source]).get (by decide)
  have ran : Graph.empty.run [.addNode source, .addNode sink] = some g := (Option.some_get _).symm
  have ran' : Graph.empty.run [.addNode other, .addNode source] = some g' :=
    (Option.some_get _).symm
  obtain ⟨_, _, snapshots, _, graphs, plans⟩ := digested_texts
  have apart : Value.PrintApart s.structureValue.floats s'.structureValue.floats := by
    intro a ha b hb same
    have floats : s.structureValue.floats = [0x3FE0000000000000] ∧
      s'.structureValue.floats = [0x3FF8000000000000] := by decide +kernel
    rw [floats.1, List.mem_singleton] at ha
    rw [floats.2, List.mem_singleton] at hb
    rw [ha, hb] at same
    exact absurd same (by decide +kernel)
  have apart' : Value.PrintApart (planValue p "w").floats (planValue p' "w").floats := by
    intro a ha b hb _
    have floats : (planValue p "w").floats = [0x3FE0000000000000] ∧
      (planValue p' "w").floats = [0x3FE0000000000000, 0x3FE0000000000000] := by decide +kernel
    rw [floats.1] at ha
    rw [floats.2] at hb
    simp only [List.mem_cons, List.not_mem_nil, or_false, or_self] at ha hb
    rw [ha, hb]
  have reachable {ops : List Operation} {g : Graph} (ran : Graph.empty.run ops = some g) :
      Graph.Reachable (fun _ _ => True) g := .of_run .empty (fun _ _ _ => trivial) ran
  have sound := (Graph.WellFormed.of_reachable (reachable ran)).toSound
  have sound' := (Graph.WellFormed.of_reachable (reachable ran')).toSound
  have types : ∀ id, (g.node? id).map (·.type) = (g'.node? id).map (·.type) := by
    intro id
    have index : g.index = (SortedMap.empty.insert 1 0).insert 2 1 := rfl
    have index' : g'.index = (SortedMap.empty.insert 2 0).insert 1 1 := rfl
    by_cases first : id = 1
    · subst first
      rfl
    · by_cases second : id = 2
      · subst second
        rfl
      · simp [Graph.node?, index, index', SortedMap.find?_insert, first, second]
  have graphs := graphs g g' sound sound' rfl rfl rfl rfl types
  refine ⟨fun same => ?_, ⟨g, g', ran, ran', graphs⟩, fun same => ?_⟩
  · have told := (snapshots s s' apart).1 same
    simp [s, s', half] at told
  · have told := (plans p p' "w" "w" apart').1 same
    have inputs := congrArg (fun p : Prompt => p.values.map (·.inputs.length)) told.1
    exact absurd inputs (by decide)

end Flowgraph
