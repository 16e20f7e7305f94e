import Flowgraph.Proofs.Plan.Compile
import Flowgraph.Proofs.Snapshot.Acceptance

namespace Flowgraph

open Json

/-- A live node that keeps what a stored one says for lack of a type: it has no widgets, just the
stored slots, all stored widget values aside, and a type that is not registered. -/
structure Node.Placeholder (types : TypeRegistry) (stored : NodeRecord) (n : Node) : Prop where
  widgets : n.widgets = []
  inputs : n.inputs = stored.inputs
  outputs : n.outputs = stored.outputs
  unbound : n.unbound = stored.widgetValues
  unregistered : types.contains n.type = false

theorem ite_isEmpty_nil {α : Type} (l : List α) : (if l.isEmpty then [] else l) = l := by
  cases l <;> rfl

theorem NodeRecord.toNode_placeholder {types : TypeRegistry} {n : NodeRecord}
    (absent : types.contains n.type = false) : (n.toNode types).Placeholder types n := by
  have none : types.find? n.type = none := by simpa [SortedMap.contains] using absent
  have blank : types.blank n.type = { type := n.type } := TypeRegistry.blank_of_absent none
  have revives := n.revives_toNode types
  have widgets : (n.toNode types).widgets = [] := by
    have labels := revives.widgets
    rw [blank] at labels
    exact List.map_eq_nil_iff.1 labels
  constructor
  case widgets => exact widgets
  case inputs => rw [revives.inputs, liveInputs, blank, ite_isEmpty_nil]
  case outputs => rw [revives.outputs, liveOutputs, blank, ite_isEmpty_nil]
  case unbound => simpa [blank, widgets] using revives.values
  case unregistered => rwa [revives.type, blank]

/-- Import makes a placeholder of a stored node of an unknown type unless the safe name of the type
is that of a registered one. -/
theorem NodeRecord.placeholder_iff {types : TypeRegistry} (genuine : types.Genuine)
    {n : NodeRecord} (unknown : types.contains n.type = false) :
    ((n.withPlaceholder types).toNode types).Placeholder types n ↔
      types.contains (sanitize n.type) = false := by
  have renamed : n.withPlaceholder types = { n with type := sanitize n.type } := by
    rw [withPlaceholder, unknown]
    rfl
  rw [renamed]
  constructor
  · intro p
    have unregistered := p.unregistered
    rwa [toNode_type genuine] at unregistered
  · intro absent
    have p := toNode_placeholder (n := { n with type := sanitize n.type }) absent
    exact ⟨p.widgets, p.inputs, p.outputs, p.unbound, p.unregistered⟩

/-- The plan of a node without widgets says of its inputs only which nodes feed them. -/
theorem Graph.mem_inputs_of_no_widgets {g : Graph} {n : Node} (none : n.widgets = [])
    {m : String × Value} (hm : m ∈ (g.planNode n).inputs) :
    ∃ slot l, g.inputLink? n.id slot = some l ∧ m.2 = originReference l := by
  have listed := Members.mem_ofList hm
  simp only [widgetInputs, none, List.filter_nil, List.map_nil, List.nil_append, linkInputs,
    List.mem_filterMap, Option.map_eq_some_iff] at listed
  obtain ⟨⟨_, slot⟩, _, l, found, rfl⟩ := listed
  exact ⟨slot, l, found, rfl⟩

namespace Snapshot

variable {s : Snapshot} {r : ExtensionRegistry} {i : Import}

theorem node?_of_load (plain : r.plugins = []) (ok : s.load r = .ok i) {stored : NodeRecord}
    (listed : stored ∈ s.nodes) :
    i.graph.node? stored.id = some ((stored.withPlaceholder r.types).toNode r.types) := by
  obtain ⟨nodes, _, sound, _⟩ := Graph.ofSnapshot_ok (load_ok_of_plain plain ok)
  refine sound.node?_eq_some_iff.2 ⟨?_, ?_⟩
  · rw [nodes]
    exact List.mem_map_of_mem (List.mem_map_of_mem (f := (·.withPlaceholder r.types)) listed)
  · rw [NodeRecord.withPlaceholder_eq]
    rfl

theorem mem_missing_of_load (plain : r.plugins = []) (ok : s.load r = .ok i)
    {stored : NodeRecord} (listed : stored ∈ s.nodes)
    (unknown : r.types.contains stored.type = false) : stored.type ∈ i.missing := by
  rw [(eq_of_load_ok ok).1, prepared_of_plain plain, (s.misses_missingTypes r.types).mem_iff]
  exact ⟨unknown, stored, listed, rfl⟩

/-- A stored node of an unknown type is reported missing. It becomes a placeholder, of which a plan
holds no values, exactly if the safe name of its type is that of no registered type. -/
theorem unknown_become_placeholders (genuine : r.types.Genuine) (plain : r.plugins = [])
    (ok : s.load r = .ok i) {stored : NodeRecord} (listed : stored ∈ s.nodes)
    (unknown : r.types.contains stored.type = false) :
    stored.type ∈ i.missing ∧ ∃ n, i.graph.node? stored.id = some n ∧
      (n.Placeholder r.types stored ↔ r.types.contains (sanitize stored.type) = false) ∧
      (n.Placeholder r.types stored →
        ∀ p, i.graph.compile.prompt.find? stored.id = some p → ∀ m ∈ p.inputs,
          ∃ slot l, i.graph.inputLink? stored.id slot = some l ∧ m.2 = Graph.originReference l) := by
  refine ⟨mem_missing_of_load plain ok listed unknown, _, node?_of_load plain ok listed,
    NodeRecord.placeholder_iff genuine unknown, ?_⟩
  intro placeholder p planned m hm
  have anchored := (Graph.ofSnapshot_ok (load_ok ok)).2.2.1.anchored
  obtain ⟨n, found, _, rfl⟩ := anchored.find?_prompt_iff.1 planned
  obtain ⟨_, hid⟩ := anchored.mem_of_node? found
  cases found.symm.trans (node?_of_load plain ok listed)
  rw [← hid]
  exact Graph.mem_inputs_of_no_widgets placeholder.widgets hm

/-- A node of an unknown type that another one feeds. -/
theorem placeholder_behind_sum :
    let amount : SlotDescriptor := ⟨none, "number", some ⟨"number", none, .ofInt 5⟩⟩
    let sum : NodeDescriptor := {
      className := none, displayName := none, description := none, category := none
      subcategory := none, slots := some ⟨[("a", amount)], []⟩, output := some ⟨"out", "*"⟩ }
    let core : ExtensionDescriptor := ⟨"core", "1", "", none, none, [("Sum", sum)], []⟩
    let r := ({} : ExtensionRegistry).add "core" core
    let ghost : NodeRecord := {
      id := 7, type := "G<host>", widgetValues := [.ofInt 1, .null]
      inputs := [{ name := "in", link := some 1 }] }
    let s : Snapshot := {
      nodes := [{ id := 4, type := "Sum" }, ghost], links := [⟨1, 4, 0, 7, 0, .null⟩] }
    ∃ i n, s.load r = .ok i ∧ "G<host>" ∈ i.missing ∧ i.graph.node? 7 = some n ∧
      n.Placeholder r.types ghost := by
  intro amount sum core r ghost s
  have genuine : r.types.Genuine := ExtensionRegistry.genuine_add .empty "core" core
  have loaded : (s.load r).toOption.isSome = true := by decide +kernel
  cases ok : s.load r with
  | error e =>
    rw [ok] at loaded
    cases loaded
  | ok i =>
    have listed : ghost ∈ s.nodes := List.mem_cons_of_mem _ (List.mem_singleton_self _)
    obtain ⟨missing, n, found, exact, _⟩ :=
      unknown_become_placeholders genuine rfl ok listed (by decide +kernel)
    exact ⟨i, n, rfl, missing, found, exact.2 (by decide +kernel)⟩

/-- A type that is reported missing passes for a registered one, whose widgets its node gets. -/
theorem not_placeholder_under_taken_name :
    let amount : SlotDescriptor := ⟨none, "number", some ⟨"number", none, .ofInt 5⟩⟩
    let sum : NodeDescriptor := {
      className := none, displayName := none, description := none, category := none
      subcategory := none, slots := some ⟨[("a", amount)], []⟩, output := some ⟨"out", "*"⟩ }
    let core : ExtensionDescriptor := ⟨"core", "1", "", none, none, [("Sum", sum)], []⟩
    let r := ({} : ExtensionRegistry).add "core" core
    let stored : NodeRecord := { id := 7, type := "Sum<", widgetValues := [.ofInt 1] }
    let s : Snapshot := { nodes := [stored] }
    r.plugins = [] ∧ r.types.contains "Sum<" = false ∧
      ∃ i n, s.load r = .ok i ∧ i.missing = ["Sum<"] ∧ i.graph.node? 7 = some n ∧
        n.type = "Sum" ∧ r.types.contains "Sum" = true ∧ ¬n.Placeholder r.types stored := by
  intro amount sum core r stored s
  have shown : (s.load r).toOption.bind (fun i => (i.graph.node? 7).map fun n =>
      (i.missing, n.type, n.widgets.length)) = some (["Sum<"], "Sum", 1) := by
    decide +kernel
  refine ⟨rfl, by decide +kernel, ?_⟩
  cases ok : s.load r with
  | error e => simp [ok, Except.toOption] at shown
  | ok i =>
    simp only [ok, Except.toOption, Option.bind_some, Option.map_eq_some_iff, Prod.mk.injEq]
      at shown
    obtain ⟨n, found, missing, type, widgets⟩ := shown
    refine ⟨i, n, rfl, missing, found, type, by decide +kernel, fun p => ?_⟩
    rw [p.widgets] at widgets
    cases widgets

end Snapshot

end Flowgraph
