import Flowgraph.Proofs.Extension.Described
import Flowgraph.Proofs.Graph.Configure
import Flowgraph.Proofs.Snapshot.Checksum
import Mathlib.Data.List.Forall2

namespace Flowgraph

open Json

theorem Mode.code_ofCode (m : Nat) : (Mode.ofCode m).code = if m ≤ 4 then m else 0 := by
  match m with
  | 0 | 1 | 2 | 3 | 4 => rfl
  | m + 5 =>
    rw [if_neg (by omega)]
    rfl

section Widgets

/-- Widgets take the leading values, and the others keep theirs. -/
theorem fillWidgets_values (ws : List Widget) (vs : List Value) :
    (fillWidgets ws vs).1.map (·.value) ++ (fillWidgets ws vs).2 =
      vs ++ (ws.drop vs.length).map (·.value) := by
  induction ws generalizing vs with
  | nil => simp [fillWidgets]
  | cons w ws ih =>
    cases vs with
    | nil => simp [fillWidgets]
    | cons v vs => simp [fillWidgets, ih]

end Widgets

/-- What is kept of a stored node that becomes a live one and is stored again as `e`. What it does
not say itself is what its type shows. -/
structure NodeRecord.Survives (types : TypeRegistry) (n e : NodeRecord) : Prop where
  id : e.id = n.id
  type : e.type = if types.contains n.type then n.type else sanitize n.type
  title : e.title = some (n.title.getD (types.blank e.type).title)
  mode : e.mode = if n.mode ≤ 4 then n.mode else 0
  inputs : e.inputs = if n.inputs.isEmpty then (types.blank e.type).inputs else n.inputs
  outputs : e.outputs = if n.outputs.isEmpty then (types.blank e.type).outputs else n.outputs
  properties : e.properties = n.properties
  widgetValues : e.widgetValues = n.widgetValues ++
    ((types.blank e.type).widgets.drop n.widgetValues.length).map (·.value)
  color : e.color = n.color
  bodyColor : e.bodyColor = n.bodyColor
  layout : e.layout = n.layout

namespace NodeRecord

variable {types : TypeRegistry}

/-- A stored node under the name that its type goes by in a graph. -/
def withPlaceholder (types : TypeRegistry) (n : NodeRecord) : NodeRecord :=
  if types.contains n.type then n else { n with type := sanitize n.type }

theorem withPlaceholder_eq (types : TypeRegistry) (n : NodeRecord) :
    n.withPlaceholder types =
      { n with type := if types.contains n.type then n.type else sanitize n.type } := by
  unfold withPlaceholder
  split <;> rfl

theorem toNode_type (genuine : types.Genuine) (n : NodeRecord) : (n.toNode types).type = n.type :=
  (genuine.blank n.type).type

theorem survives (genuine : types.Genuine) {n : NodeRecord}
    (distinct : Members.Distinct n.properties) :
    n.Survives types ((n.withPlaceholder types).toNode types).toRecord := by
  rw [withPlaceholder_eq]
  let name := if types.contains n.type then n.type else sanitize n.type
  have blank := genuine.blank name
  have type : (({ n with type := name } : NodeRecord).toNode types).toRecord.type = name :=
    blank.type
  constructor
  case id => rfl
  case type => exact type
  case title => rw [type]; rfl
  case mode => exact Mode.code_ofCode n.mode
  case inputs => rw [type]; rfl
  case outputs => rw [type]; rfl
  case properties =>
    change Members.putAll (types.blank name).properties n.properties = n.properties
    rw [blank.properties]
    exact Members.ofList_eq_self distinct
  case widgetValues =>
    rw [type]
    exact fillWidgets_values _ _
  case color =>
    change n.color.or (types.blank name).color = n.color
    rw [blank.color, Option.or_none]
  case bodyColor =>
    change n.bodyColor.or (types.blank name).bodyColor = n.bodyColor
    rw [blank.bodyColor, Option.or_none]
  case layout => rfl

end NodeRecord

def sortLinks (ls : List Link) : List Link := sortBy (·.id) ls

theorem Graph.Anchored.links_ascending {g : Graph} (a : g.Anchored) :
    g.links.values.Pairwise fun a b => a.id < b.id := by
  have keys : g.links.entries.Pairwise fun a b => a.1 < b.1 :=
    g.links.ascending.imp fun lt => Std.compare_eq_lt.1 lt
  rw [SortedMap.values, List.pairwise_map]
  refine keys.imp_of_mem fun {p q} hp hq lt => ?_
  have idp := a.keyed _ _ ((g.links.find?_eq_some_iff).2 hp)
  have idq := a.keyed _ _ ((g.links.find?_eq_some_iff).2 hq)
  rwa [idp, idq]

namespace Snapshot

variable {s : Snapshot} {types : TypeRegistry} {g : Graph}

/-- The largest of nought, the node counter and the node ids. -/
def topNode (s : Snapshot) : NodeId := max ((s.nodes.map (·.id)).foldl max 0) s.lastNode

def topLink (s : Snapshot) : LinkId := max ((s.links.map (·.id)).foldl max 0) s.lastLink

theorem withPlaceholders_eq (s : Snapshot) (types : TypeRegistry) :
    s.withPlaceholders types = { s with nodes := s.nodes.map fun n =>
      { n with type := if types.contains n.type then n.type else sanitize n.type } } := by
  have nodes : s.nodes.map (·.withPlaceholder types) = s.nodes.map fun n =>
      { n with type := if types.contains n.type then n.type else sanitize n.type } :=
    List.map_congr_left fun n _ => n.withPlaceholder_eq types
  rw [← nodes]
  rfl

/-- A snapshot with its links sorted, its counters raised to what it uses, and safe names for the
types that are not registered. -/
def settled (s : Snapshot) (types : TypeRegistry) : Snapshot :=
  { s with
    nodes := s.nodes.map fun n =>
      { n with type := if types.contains n.type then n.type else sanitize n.type }
    links := sortLinks s.links
    lastNode := s.topNode
    lastLink := s.topLink }

theorem links_of_ofSnapshot (ok : Graph.ofSnapshot s types = .ok g) :
    g.links.values = sortLinks s.links := by
  obtain ⟨_, links, sound, _⟩ := Graph.ofSnapshot_ok ok
  have distinct := (Graph.ofSnapshot_rest ok).2.2.2
  have ascending := sound.anchored.links_ascending
  have nodup : g.links.values.Nodup := ascending.imp fun {a b} lt => by
    rintro rfl
    exact Int.lt_irrefl _ lt
  -- The ids of the stored links are distinct, so the table holds each of them once.
  have perm : g.links.values.Perm s.links := by
    refine (List.perm_ext_iff_of_nodup nodup (List.Nodup.of_map _ distinct)).2 fun l => ?_
    rw [SortedMap.mem_values_iff]
    simp [links]
  exact (sortBy_eq_of_perm distinct perm (ascending.imp fun lt => Int.le_of_lt lt)).symm

theorem nodes_of_ofSnapshot (ok : Graph.ofSnapshot (s.withPlaceholders types) types = .ok g) :
    g.toSnapshot.nodes = (sortById s.nodes).map fun n =>
      ((n.withPlaceholder types).toNode types).toRecord := by
  have nodes : g.nodes = (s.nodes.map (·.withPlaceholder types)).map (·.toNode types) :=
    (Graph.ofSnapshot_ok ok).1
  have keeps (n : NodeRecord) : ((n.withPlaceholder types).toNode types).toRecord.id = n.id := by
    rw [NodeRecord.withPlaceholder_eq]
    rfl
  have swap := map_sortBy (·.id) (·.id)
    (fun n : NodeRecord => ((n.withPlaceholder types).toNode types).toRecord) keeps s.nodes
  rw [sortById_eq_sortBy, swap, Graph.toSnapshot, nodes, List.map_map, List.map_map]
  rfl

theorem stubs_of_ofSnapshot (genuine : types.Genuine)
    (ok : Graph.ofSnapshot (s.withPlaceholders types) types = .ok g) :
    g.toSnapshot.stubs = (s.settled types).stubs := by
  have nodes : g.nodes = (s.withPlaceholders types).nodes.map (·.toNode types) :=
    (Graph.ofSnapshot_ok ok).1
  have kept (n : NodeRecord) : ((n.toNode types).id, (n.toNode types).type) = n.stub := by
    rw [NodeRecord.toNode_type genuine]
    rfl
  have settled : (s.settled types).nodes = (s.withPlaceholders types).nodes := by
    rw [withPlaceholders_eq]
    rfl
  rw [Graph.stubs_toSnapshot, stubs_eq_sortBy, settled, nodes, List.map_map]
  exact congrArg (sortBy Prod.fst) (List.map_congr_left fun n _ => kept n)

theorem prepared_of_plain {r : ExtensionRegistry} (plain : r.plugins = []) :
    s.prepared r = s := by
  rw [prepared, plain, List.foldl_nil]

theorem load_of_plain {r : ExtensionRegistry} (plain : r.plugins = [])
    (built : Graph.ofSnapshot (s.withPlaceholders r.types) r.types = .ok g) :
    ∃ i, s.load r = .ok i ∧ i.graph = g := by
  refine ⟨⟨g, s.missingTypes r.types, r.plugins.map (⟨·, g, s.missingTypes r.types⟩)⟩, ?_, rfl⟩
  simp only [load, prepared_of_plain plain, built]
  rfl

theorem load_ok_of_plain {r : ExtensionRegistry} {i : Import} (plain : r.plugins = [])
    (ok : s.load r = .ok i) :
    Graph.ofSnapshot (s.withPlaceholders r.types) r.types = .ok i.graph := by
  have built := load_ok ok
  rwa [prepared_of_plain plain] at built

/-- What is kept of a snapshot that is imported and stored again as `e`. -/
structure Resaved (types : TypeRegistry) (s e : Snapshot) : Prop where
  nodes : List.Forall₂ (NodeRecord.Survives types) (sortById s.nodes) e.nodes
  links : e.links = sortLinks s.links
  groups : e.groups = s.groups
  config : e.config = s.config
  extra : e.extra = s.extra
  other : e.other = s.other
  lastNode : e.lastNode = s.topNode
  lastLink : e.lastLink = s.topLink
  checksum : e.checksum = Digest.ofText (s.settled types).structureValue.compact

theorem resaved_of_ofSnapshot (genuine : types.Genuine)
    (distinct : ∀ n ∈ s.nodes, Members.Distinct n.properties)
    (built : Graph.ofSnapshot (s.withPlaceholders types) types = .ok g) :
    Resaved types s g.serialize := by
  obtain ⟨carried, lastNode, lastLink, _⟩ := Graph.ofSnapshot_rest built
  simp only [Graph.carried, Prod.mk.injEq] at carried
  obtain ⟨groups, config, extra, other⟩ := carried
  have ids : (s.withPlaceholders types).nodes.map (·.id) = s.nodes.map (·.id) := by
    change (s.nodes.map (·.withPlaceholder types)).map (·.id) = _
    rw [List.map_map]
    refine List.map_congr_left fun n _ => ?_
    rw [Function.comp_apply, NodeRecord.withPlaceholder_eq]
  have lastNode : g.lastNode = s.topNode := by
    rw [lastNode, ids]
    rfl
  have links := links_of_ofSnapshot built
  constructor
  case nodes =>
    change List.Forall₂ _ _ g.toSnapshot.nodes
    rw [nodes_of_ofSnapshot built, List.forall₂_map_right_iff, List.forall₂_same]
    intro n hn
    have listed := (List.mergeSort_perm s.nodes _).mem_iff.1 hn
    exact NodeRecord.survives genuine (distinct n listed)
  case links => exact links
  case groups => exact groups
  case config => exact config
  case extra => exact extra
  case other => exact other
  case lastNode => exact lastNode
  case lastLink => exact lastLink
  case checksum =>
    rw [Graph.serialize_checksum]
    change _ = (s.settled types).structuralChecksum
    apply structuralChecksum_congr
    have stubs := stubs_of_ofSnapshot genuine built
    exact structureValue_eq_iff.2 ⟨lastNode, lastLink, links, groups, stubs⟩

/-- Without plugins a snapshot that can be imported is stored again as it was, up to order, names of
types that are missing, and what types add to empty fields. The types go by the names under which
they are registered, as those do that are loaded (`ExtensionRegistry.genuine_load`). -/
theorem Resaved.of_load {r : ExtensionRegistry} {i : Import} (genuine : r.types.Genuine)
    (plain : r.plugins = []) (distinct : ∀ n ∈ s.nodes, Members.Distinct n.properties)
    (ok : s.load r = .ok i) : Resaved r.types s i.graph.serialize := by
  have built := load_ok_of_plain plain ok
  exact resaved_of_ofSnapshot genuine distinct built

theorem resaved_after_foreign_import :
    let widget : WidgetDescriptor := ⟨"number", none, .ofInt 5⟩
    let slot (name : String) : String × SlotDescriptor := (name, ⟨none, "number", some widget⟩)
    let sum : NodeDescriptor := {
      className := none, displayName := some "Sum of two", description := none, category := none
      subcategory := none, slots := some ⟨[slot "a", slot "b"], []⟩, output := some ⟨"out", "*"⟩ }
    let core : ExtensionDescriptor := ⟨"core", "1", "", none, none, [("Sum", sum)], []⟩
    let r := ({} : ExtensionRegistry).add "core" core
    let s : Snapshot := {
      lastNode := -9
      nodes := [
        { id := 4, type := "Sum", mode := 7, widgetValues := [.ofInt 1] },
        { id := -7, type := "G<host>", title := some "Ghost", widgetValues := [.null],
          inputs := [{ name := "in", link := some 3 }]
          properties := [("b", .null), ("a", .null)] }]
      links := [⟨3, 4, 0, -7, 0, .null⟩, ⟨-2, 4, 0, 4, 1, .null⟩] }
    ∃ i, s.load r = .ok i ∧ i.graph.nodes.map (·.type) = ["Sum", "Ghost"] ∧
      Resaved r.types s i.graph.serialize := by
  intro widget slot sum core r s
  have genuine : r.types.Genuine := ExtensionRegistry.genuine_add .empty "core" core
  have named : (s.load r).toOption.map (fun i => i.graph.nodes.map (·.type)) =
      some ["Sum", "Ghost"] := by
    decide +kernel
  cases ok : s.load r with
  | error e => simp [ok, Except.toOption] at named
  | ok i =>
    rw [ok] at named
    refine ⟨i, rfl, Option.some.inj named, Resaved.of_load genuine rfl ?_ ok⟩
    simp [s, Members.Distinct]

/-- A node gets the name of its type from the template, so one of a type that is registered under
another name is stored again under a name that no type has. -/
theorem not_resaved_under_alias :
    let sum : NodeDescriptor := {
      className := none, displayName := none, description := none, category := none
      subcategory := none, slots := none, output := none }
    let renamed : NodeType := { NodeType.ofNode "Sum" sum with name := "Alias" }
    let r : ExtensionRegistry := { types := TypeRegistry.register .empty renamed }
    let s : Snapshot := { nodes := [{ id := 1, type := "Alias" }] }
    r.plugins = [] ∧ r.types.Described ∧ r.types.contains "Alias" = true ∧
      ∃ i, s.load r = .ok i ∧ i.graph.serialize.nodes.map (·.type) = ["Sum"] ∧
        ¬Resaved r.types s i.graph.serialize := by
  intro sum renamed r s
  have described : r.types.Described := by
    intro name t found
    rw [show r.types.find? name = _ from SortedMap.find?_insert ..] at found
    split at found
    · cases found
      exact .inl ⟨"Sum", sum, rfl⟩
    · cases found
  have registered : r.types.contains "Alias" = true := by decide +kernel
  have named : (s.load r).toOption.map (fun i => i.graph.serialize.nodes.map (·.type)) =
      some ["Sum"] := by
    decide +kernel
  cases ok : s.load r with
  | error e => simp [ok, Except.toOption] at named
  | ok i =>
    rw [ok] at named
    have types : i.graph.serialize.nodes.map (·.type) = ["Sum"] := Option.some.inj named
    refine ⟨rfl, described, registered, i, rfl, types, fun resaved => ?_⟩
    have sorted : sortById s.nodes = s.nodes := List.mergeSort_singleton _
    obtain ⟨e, rest, survives, _, eq⟩ := List.forall₂_cons_left_iff.1 (sorted ▸ resaved.nodes)
    rw [eq] at types
    have kept : e.type = "Alias" := survives.type.trans (if_pos registered)
    simp [kept] at types

end Snapshot

end Flowgraph
