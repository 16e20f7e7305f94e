import Flowgraph.Proofs.Graph.Fit
import Flowgraph.Proofs.Snapshot.Resave
import Flowgraph.Workspace.Basic
import Mathlib.Data.List.Induction

namespace Flowgraph

open Json

namespace NodeRecord

/-- The input slots that a stored node has as a live one: its own, or those of its type if it
stores none. -/
def liveInputs (types : TypeRegistry) (n : NodeRecord) : List InputSlot :=
  if n.inputs.isEmpty then (types.blank n.type).inputs else n.inputs

def liveOutputs (types : TypeRegistry) (n : NodeRecord) : List OutputSlot :=
  if n.outputs.isEmpty then (types.blank n.type).outputs else n.outputs

/-- A stored node comes to life as `m`. What it does not say itself is what its type shows, and the
widgets take the leading values. -/
structure Revives (types : TypeRegistry) (n : NodeRecord) (m : Node) : Prop where
  id : m.id = n.id
  type : m.type = (types.blank n.type).type
  title : m.title = n.title.getD (types.blank n.type).title
  mode : m.mode.code = if n.mode ≤ 4 then n.mode else 0
  inputs : m.inputs = n.liveInputs types
  outputs : m.outputs = n.liveOutputs types
  properties : m.properties = Members.putAll (types.blank n.type).properties n.properties
  widgets : m.widgets.map Widget.label = (types.blank n.type).widgets.map Widget.label
  values : m.widgets.map (·.value) ++ m.unbound =
    n.widgetValues ++ ((types.blank n.type).widgets.drop n.widgetValues.length).map (·.value)
  color : m.color = n.color.or (types.blank n.type).color
  bodyColor : m.bodyColor = n.bodyColor.or (types.blank n.type).bodyColor
  layout : m.layout = n.layout

theorem revives_toNode (types : TypeRegistry) (n : NodeRecord) :
    n.Revives types (n.toNode types) where
  id := rfl
  type := rfl
  title := rfl
  mode := Mode.code_ofCode n.mode
  inputs := rfl
  outputs := rfl
  properties := rfl
  widgets := fillWidgets_labels _ _
  values := fillWidgets_values _ _
  color := rfl
  bodyColor := rfl
  layout := rfl

end NodeRecord

namespace Snapshot

variable {s : Snapshot} {types : TypeRegistry} {g : Graph}

/-- One end of a link is missing: no node of that id has the slot. -/
def Dangles (s : Snapshot) (types : TypeRegistry) (l : Link) : Prop :=
  (¬∃ n ∈ s.nodes, n.id = l.origin ∧ l.originSlot < (n.liveOutputs types).length) ∨
    ¬∃ n ∈ s.nodes, n.id = l.target ∧ l.targetSlot < (n.liveInputs types).length

/-- Two nodes share an id, two links do, or a link misses an end. -/
def Unfit (s : Snapshot) (types : TypeRegistry) : Prop :=
  ¬(s.nodes.map (·.id)).Nodup ∨ ¬(s.links.map (·.id)).Nodup ∨ ∃ l ∈ s.links, s.Dangles types l

/-- A graph has the nodes of a snapshot in their order, found under their ids, its links, and what
it carries along, and no more. -/
structure Becomes (types : TypeRegistry) (s : Snapshot) (g : Graph) : Prop where
  nodes : List.Forall₂ (NodeRecord.Revives types) s.nodes g.nodes
  index : ∀ id i, g.index.find? id = some i ↔ s.nodes[i]?.map (·.id) = some id
  links : ∀ id l, g.links.find? id = some l ↔ l ∈ s.links ∧ l.id = id
  groups : g.groups = s.groups
  config : g.config = s.config
  extra : g.extra = s.extra
  other : g.other = s.other
  lastNode : g.lastNode = s.topNode
  lastLink : g.lastLink = s.topLink

theorem becomes_of_ofSnapshot (ok : Graph.ofSnapshot s types = .ok g) : s.Becomes types g := by
  obtain ⟨nodes, links, sound, _⟩ := Graph.ofSnapshot_ok ok
  obtain ⟨carried, lastNode, lastLink, _⟩ := Graph.ofSnapshot_rest ok
  simp only [Graph.carried, Prod.mk.injEq] at carried
  obtain ⟨groups, config, extra, other⟩ := carried
  refine ⟨?_, fun id i => ?_, links, groups, config, extra, other, lastNode, lastLink⟩
  · rw [nodes, List.forall₂_map_right_iff, List.forall₂_same]
    exact fun n _ => n.revives_toNode types
  · rw [sound.indexed, nodes, List.getElem?_map, Option.map_map]
    rfl

theorem not_dangles_of_ofSnapshot (ok : Graph.ofSnapshot s types = .ok g) {l : Link}
    (hl : l ∈ s.links) : ¬s.Dangles types l := by
  obtain ⟨nodes, links, sound, _⟩ := Graph.ofSnapshot_ok ok
  have found := (links l.id l).2 ⟨hl, rfl⟩
  have stored {n : Node} (hn : n ∈ g.nodes) : ∃ m ∈ s.nodes, m.toNode types = n := by
    rw [nodes] at hn
    exact List.mem_map.1 hn
  rintro (missing | missing)
  · obtain ⟨n, hn, origin, slot⟩ := sound.leaves l.id l found
    obtain ⟨m, hm, rfl⟩ := stored hn
    exact missing ⟨m, hm, origin, slot⟩
  · obtain ⟨n, hn, target, slot⟩ := sound.enters l.id l found
    obtain ⟨m, hm, rfl⟩ := stored hn
    exact missing ⟨m, hm, target, slot⟩

theorem ofSnapshot_fails_iff :
    (∃ e, Graph.ofSnapshot s types = .error e) ↔ s.Unfit types := by
  constructor
  · rintro ⟨e, failed⟩
    by_contra fit
    simp only [Unfit, not_or, not_not, not_exists, not_and] at fit
    obtain ⟨nodes, links, ends⟩ := fit
    have ends (l : Link) (hl : l ∈ s.links) := not_or.1 (ends l hl)
    obtain ⟨g, ok⟩ := Graph.ofSnapshot_succeeds nodes links
      (fun l hl => not_not.1 (ends l hl).1) (fun l hl => not_not.1 (ends l hl).2)
    cases ok.symm.trans failed
  · intro unfit
    cases built : Graph.ofSnapshot s types with
    | error e => exact ⟨e, rfl⟩
    | ok g =>
      rcases unfit with nodes | links | ⟨l, hl, dangles⟩
      · have distinct := (Graph.ofSnapshot_ok built).2.2.1.distinct
        rw [(Graph.ofSnapshot_ok built).1, List.map_map] at distinct
        exact absurd distinct nodes
      · exact absurd (Graph.ofSnapshot_rest built).2.2.2 links
      · exact absurd dangles (not_dangles_of_ofSnapshot built hl)

/-- The types of some nodes that are not registered, each once, in the order in which they occur
first. -/
structure Misses (types : TypeRegistry) (nodes : List NodeRecord) (names : List String) :
    Prop where
  distinct : names.Nodup
  mem_iff : ∀ name, name ∈ names ↔ types.contains name = false ∧ ∃ n ∈ nodes, n.type = name
  ordered : names.Pairwise fun a b =>
    (nodes.map (·.type)).idxOf a < (nodes.map (·.type)).idxOf b

section Misses

variable {nodes : List NodeRecord} {names : List String} {n : NodeRecord}

theorem Misses.occurs (m : Misses types nodes names) {name : String} (h : name ∈ names) :
    name ∈ nodes.map (·.type) := by
  obtain ⟨_, k, hk, rfl⟩ := (m.mem_iff name).1 h
  exact List.mem_map_of_mem hk

/-- A node that follows does not change where the others occur first. -/
theorem Misses.ordered_append (m : Misses types nodes names) (n : NodeRecord) :
    names.Pairwise fun a b =>
      ((nodes ++ [n]).map (·.type)).idxOf a < ((nodes ++ [n]).map (·.type)).idxOf b := by
  refine m.ordered.imp_of_mem fun {a b} ha hb lt => ?_
  rwa [List.map_append, List.idxOf_append_of_mem (m.occurs ha),
    List.idxOf_append_of_mem (m.occurs hb)]

theorem Misses.append_known (m : Misses types nodes names)
    (known : types.contains n.type = true ∨ n.type ∈ names) :
    Misses types (nodes ++ [n]) names where
  distinct := m.distinct
  mem_iff name := by
    rw [m.mem_iff]
    constructor
    · rintro ⟨unknown, k, hk, rfl⟩
      exact ⟨unknown, k, List.mem_append_left _ hk, rfl⟩
    · rintro ⟨unknown, k, hk, rfl⟩
      rcases List.mem_append.1 hk with hk | hk
      · exact ⟨unknown, k, hk, rfl⟩
      · rw [List.mem_singleton.1 hk] at unknown ⊢
        rcases known with registered | listed
        · rw [unknown] at registered
          cases registered
        · exact (m.mem_iff _).1 listed
  ordered := m.ordered_append n

theorem Misses.append_new (m : Misses types nodes names)
    (unknown : types.contains n.type = false) (new : n.type ∉ names) :
    Misses types (nodes ++ [n]) (names ++ [n.type]) where
  distinct := by
    rw [List.nodup_append]
    refine ⟨m.distinct, List.nodup_singleton _, fun a ha b hb same => new ?_⟩
    rwa [← List.mem_singleton.1 hb, ← same]
  mem_iff name := by
    simp only [List.mem_append, List.mem_singleton, m.mem_iff]
    constructor
    · rintro (⟨unknown, k, hk, rfl⟩ | rfl)
      · exact ⟨unknown, k, .inl hk, rfl⟩
      · exact ⟨unknown, n, .inr rfl, rfl⟩
    · rintro ⟨unknown, k, hk | rfl, rfl⟩
      · exact .inl ⟨unknown, k, hk, rfl⟩
      · exact .inr rfl
  ordered := by
    have absent : n.type ∉ nodes.map (·.type) := by
      intro mem
      obtain ⟨k, hk, same⟩ := List.mem_map.1 mem
      exact new ((m.mem_iff _).2 ⟨unknown, k, hk, same⟩)
    rw [List.pairwise_append]
    refine ⟨m.ordered_append n, List.pairwise_singleton _ _, ?_⟩
    intro a ha b hb
    rw [List.mem_singleton.1 hb, List.map_append, List.idxOf_append_of_mem (m.occurs ha),
      List.idxOf_append_of_notMem absent]
    exact Nat.lt_add_right _ (List.idxOf_lt_length_of_mem (m.occurs ha))

end Misses

theorem misses_missingTypes (s : Snapshot) (types : TypeRegistry) :
    Misses types s.nodes (s.missingTypes types) := by
  unfold missingTypes
  induction s.nodes using List.reverseRecOn with
  | nil => exact ⟨.nil, by simp, .nil⟩
  | append_singleton nodes n ih =>
    rw [List.filter_append, List.foldl_append]
    generalize (nodes.filter fun n => !types.contains n.type).foldl
      (fun seen n => if seen.contains n.type then seen else seen ++ [n.type]) [] = names at ih ⊢
    cases unknown : types.contains n.type with
    | true => simpa [unknown] using ih.append_known (.inl unknown)
    | false =>
      by_cases listed : n.type ∈ names
      · simpa [unknown, listed] using ih.append_known (.inr listed)
      · simpa [unknown, listed] using ih.append_new unknown listed

end Snapshot

namespace ExtensionRegistry

/-- The plugins of the loaded extensions with the keys of these. -/
def hooks (r : ExtensionRegistry) : List (String × Plugin) :=
  r.extensions.entries.filterMap fun e => e.2.plugin.map (e.1, ·)

theorem plugins_eq (r : ExtensionRegistry) : r.plugins = r.hooks.map Prod.snd := by
  rw [plugins, hooks, SortedMap.values, List.filterMap_map, List.map_filterMap]
  refine List.filterMap_congr fun e _ => ?_
  rw [Option.map_map]
  exact Option.map_id'.symm

theorem hooks_ascending (r : ExtensionRegistry) : r.hooks.Pairwise fun a b => a.1 < b.1 := by
  refine List.Pairwise.filterMap _ ?_ r.extensions.ascending
  intro e e' lt h mem h' mem'
  obtain ⟨_, _, rfl⟩ := Option.map_eq_some_iff.1 mem
  obtain ⟨_, _, rfl⟩ := Option.map_eq_some_iff.1 mem'
  exact compareOfLessAndEq_eq_lt.1 lt

theorem mem_hooks_iff {r : ExtensionRegistry} {key : String} {p : Plugin} :
    (key, p) ∈ r.hooks ↔ ∃ e, r.extensions.find? key = some e ∧ e.plugin = some p := by
  simp only [hooks, List.mem_filterMap, Option.map_eq_some_iff, Prod.mk.injEq,
    SortedMap.find?_eq_some_iff]
  constructor
  · rintro ⟨⟨_, e⟩, mem, _, offered, rfl, rfl⟩
    exact ⟨e, mem, offered⟩
  · rintro ⟨e, mem, offered⟩
    exact ⟨(key, e), mem, p, offered, rfl, rfl⟩

end ExtensionRegistry

namespace Snapshot

variable {s : Snapshot} {r : ExtensionRegistry}

theorem prepared_eq (s : Snapshot) (r : ExtensionRegistry) :
    s.prepared r = r.hooks.foldl (fun s h => h.2.prepare s) s := by
  rw [prepared, ExtensionRegistry.plugins_eq, List.foldl_map]

theorem load_eq_error_iff {e : GraphError} : s.load r = .error e ↔
    Graph.ofSnapshot ((s.prepared r).withPlaceholders r.types) r.types = .error e := by
  unfold load
  dsimp only
  cases Graph.ofSnapshot ((s.prepared r).withPlaceholders r.types) r.types with
  | error => simp only [bind, Except.bind, Except.error.injEq]
  | ok => simp only [bind, Except.bind, pure, Except.pure, reduceCtorEq]

theorem eq_of_load_ok {i : Import} (ok : s.load r = .ok i) :
    i.missing = (s.prepared r).missingTypes r.types ∧
      i.notices = r.plugins.map (⟨·, i.graph, i.missing⟩) := by
  unfold load at ok
  simp only [bind, Except.bind] at ok
  split at ok
  · cases ok
  · cases ok
    exact ⟨rfl, rfl⟩

end Snapshot

namespace Workspace

variable {w : Workspace} {s : Snapshot}

theorem load_of_error {e : GraphError} (failed : s.load w.registry = .error e) :
    w.load s = (w, .error e) := by
  rw [load, failed]

theorem load_of_ok {i : Import} (ok : s.load w.registry = .ok i) :
    (w.load s).2 = .ok i ∧ (w.load s).1.graph = i.graph ∧
      (w.load s).1.told = w.told ++ i.notices := by
  unfold load
  rw [ok]
  dsimp only
  cases missingTypesNotice? i.missing <;> exact ⟨rfl, rfl, rfl⟩

theorem load_snd (w : Workspace) (s : Snapshot) : (w.load s).2 = s.load w.registry := by
  cases outcome : s.load w.registry with
  | error e => rw [load_of_error outcome]
  | ok i => exact (load_of_ok outcome).1

/-- The plugins of the extensions prepare a snapshot in the order of their keys, and types that are
not registered get safe names. If it then repeats an id or a link misses an end, nothing changes and
no plugin is told. Otherwise the graph is made of the snapshot, whatever it was before, and each
plugin is told of it and of the missing types. -/
theorem load_all_or_nothing (w : Workspace) (s : Snapshot) :
    ∃ hooks : List (String × Plugin),
      hooks.Pairwise (fun a b => a.1 < b.1) ∧
      (∀ key p, (key, p) ∈ hooks ↔
        ∃ e, w.registry.extensions.find? key = some e ∧ e.plugin = some p) ∧
      let types := w.registry.types
      let edited := hooks.foldl (fun s h => h.2.prepare s) s
      let stored : Snapshot := { edited with nodes := edited.nodes.map fun n =>
        { n with type := if types.contains n.type then n.type else sanitize n.type } }
      ((∃ e, (w.load s).2 = .error e) ↔ stored.Unfit types) ∧
      (∀ e, (w.load s).2 = .error e → (w.load s).1 = w) ∧
      (∀ i, (w.load s).2 = .ok i →
        stored.Becomes types i.graph ∧
        Snapshot.Misses types edited.nodes i.missing ∧
        (w.load s).1.graph = i.graph ∧
        (w.load s).1.told = w.told ++ hooks.map fun h => ⟨h.2, i.graph, i.missing⟩) ∧
      ∀ w' : Workspace, w'.registry = w.registry → (w'.load s).2 = (w.load s).2 := by
  refine ⟨w.registry.hooks, w.registry.hooks_ascending, fun _ _ => ExtensionRegistry.mem_hooks_iff,
    ?_⟩
  intro types edited stored
  have prepared : s.prepared w.registry = edited := s.prepared_eq w.registry
  have renamed : edited.withPlaceholders types = stored := edited.withPlaceholders_eq types
  simp only [load_snd]
  refine ⟨?_, ?_, ?_, ?_⟩
  · simp only [Snapshot.load_eq_error_iff, prepared, types, renamed]
    exact Snapshot.ofSnapshot_fails_iff
  · intro e failed
    rw [load_of_error failed]
  · intro i ok
    obtain ⟨_, graph, told⟩ := load_of_ok ok
    obtain ⟨missing, notices⟩ := Snapshot.eq_of_load_ok ok
    have built := Snapshot.load_ok ok
    rw [prepared] at built missing
    rw [renamed] at built
    refine ⟨Snapshot.becomes_of_ofSnapshot built, ?_, graph, ?_⟩
    · rw [missing]
      exact edited.misses_missingTypes types
    · rw [told, notices, ExtensionRegistry.plugins_eq, List.map_map]
      rfl
  · intro w' same
    rw [same]

end Workspace

end Flowgraph
