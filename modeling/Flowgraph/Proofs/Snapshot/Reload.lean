import Flowgraph.Proofs.Graph.Fit
import Flowgraph.Proofs.Plan.Prompt
import Flowgraph.Proofs.Snapshot.Resave

namespace Flowgraph

open Json

/-- Some of the types of another registry, as they are there. -/
def TypeRegistry.Within (types' types : TypeRegistry) : Prop :=
  ∀ name t, types'.find? name = some t → types.find? name = some t

theorem TypeRegistry.Genuine.within {types types' : TypeRegistry} (genuine : types.Genuine)
    (within : types'.Within types) : types'.Genuine :=
  fun name t found => genuine name t (within name t found)

theorem TypeRegistry.Within.blank {types types' : TypeRegistry} (within : types'.Within types)
    (name : String) :
    types'.blank name = types.blank name ∨ types'.blank name = { type := name } := by
  cases found : types'.find? name with
  | none => exact .inr (blank_of_absent found)
  | some t => exact .inl ((blank_of_find? found).trans (blank_of_find? (within name t found)).symm)

/-- A name that import leaves as it is even if it is the name of no type. -/
def SafeName (name : String) : Prop := ∀ c ∈ name.toList, isMarkup c = false

instance (name : String) : Decidable (SafeName name) := List.decidableBAll _ _

theorem sanitize_of_safe {name : String} (safe : SafeName name) : sanitize name = name := by
  have all : name.toList.filter (!isMarkup ·) = name.toList :=
    List.filter_eq_self.2 fun c hc => by rw [safe c hc]; rfl
  rw [sanitize, all, String.ofList_toList]

theorem Mode.ofCode_code (m : Mode) : Mode.ofCode m.code = m := by
  cases m <;> rfl

theorem fillWidgets_of_labels {ws base : List Widget} (rest : List Value)
    (same : ws.map Widget.label = base.map Widget.label) :
    fillWidgets base (ws.map (·.value) ++ rest) = (ws, rest) := by
  induction base generalizing ws with
  | nil =>
    rw [List.map_eq_nil_iff.1 same]
    rfl
  | cons b base ih =>
    obtain ⟨w, ws, rfl, label, labels⟩ := List.map_eq_cons_iff.1 same
    simp only [Widget.label, Prod.mk.injEq] at label
    simp only [List.map_cons, List.cons_append, fillWidgets, ih labels, ← label]

theorem ite_isEmpty_eq_self {α : Type} {l base : List α} (fallback : l = [] → base = []) :
    (if l.isEmpty then base else l) = l := by
  split
  · next none =>
    have none := List.isEmpty_iff.1 none
    rw [fallback none, none]
  · rfl

namespace Node

variable {types types' : TypeRegistry} {n : Node} {e : NodeRecord}

/-- A stored node that comes back under some of the types and is stored again is what it was. -/
theorem Fits.survives (fit : n.Fits types) (within : types'.Within types) (safe : SafeName n.type)
    (s : n.toRecord.Survives types' e) : e = n.toRecord := by
  have type : e.type = n.type := by
    rw [s.type]
    split
    · rfl
    · exact sanitize_of_safe safe
  have mode : e.mode = n.mode.code := by
    rw [s.mode, ← Mode.code_ofCode]
    exact congrArg Mode.code (Mode.ofCode_code n.mode)
  have inputs : e.inputs = n.inputs := by
    rw [s.inputs, type]
    refine ite_isEmpty_eq_self fun none => ?_
    rcases within.blank n.type with same | same
    · rw [same, fit.inputs none]
    · rw [same]
  have outputs : e.outputs = n.outputs := by
    rw [s.outputs, type]
    refine ite_isEmpty_eq_self fun none => ?_
    rcases within.blank n.type with same | same
    · rw [same, fit.outputs none]
    · rw [same]
  have few : (types'.blank n.type).widgets.length ≤ n.toRecord.widgetValues.length := by
    have count := congrArg List.length fit.widgets
    simp only [List.length_map] at count
    simp only [Node.toRecord, List.length_append, List.length_map]
    rcases within.blank n.type with same | same
    · rw [same]
      omega
    · rw [same]
      exact Nat.zero_le _
  have widgets : e.widgetValues = n.toRecord.widgetValues := by
    rw [s.widgetValues, type, List.drop_eq_nil_of_le few, List.map_nil, List.append_nil]
  cases e
  simp only [Node.toRecord, NodeRecord.mk.injEq]
  exact ⟨s.id, type, s.title, mode, inputs, outputs, s.properties, widgets, s.color, s.bodyColor,
    s.layout⟩

theorem Fits.toNode (fit : n.Fits types) (genuine : types.Genuine) :
    n.toRecord.toNode types = n.unremembering := by
  have blank := genuine.blank n.type
  have properties : Members.putAll (types.blank n.type).properties n.properties = n.properties := by
    rw [blank.properties]
    exact Members.ofList_eq_self fit.properties
  have taken : fillWidgets (types.blank n.type).widgets n.toRecord.widgetValues =
      (n.widgets, n.unbound) := fillWidgets_of_labels n.unbound fit.widgets
  have color : n.color.or (types.blank n.type).color = n.color := by
    rw [blank.color, Option.or_none]
  have bodyColor : n.bodyColor.or (types.blank n.type).bodyColor = n.bodyColor := by
    rw [blank.bodyColor, Option.or_none]
  rw [NodeRecord.toNode, unremembering]
  simp only [Node.mk.injEq]
  exact ⟨rfl, blank.type, rfl, Mode.ofCode_code n.mode, ite_isEmpty_eq_self fit.inputs,
    ite_isEmpty_eq_self fit.outputs, congrArg Prod.fst taken, properties, color, bodyColor, rfl,
    congrArg Prod.snd taken, blank.remembered⟩

end Node

namespace Graph

variable {types types' : TypeRegistry} {g g' : Graph}

theorem ids_serialize_perm (g : Graph) :
    (g.serialize.nodes.map (·.id)).Perm (g.nodes.map (·.id)) := by
  have perm := (List.mergeSort_perm (g.nodes.map Node.toRecord)
    fun a b => decide (a.id ≤ b.id)).map (·.id)
  rwa [List.map_map] at perm

theorem mem_serialize_nodes {m : NodeRecord} :
    m ∈ g.serialize.nodes ↔ ∃ n ∈ g.nodes, n.toRecord = m := by
  have perm : m ∈ g.serialize.nodes ↔ m ∈ g.nodes.map Node.toRecord :=
    (List.mergeSort_perm _ _).mem_iff
  rw [perm, List.mem_map]

/-- Reading a stored graph leaves its counters where they are, since they cover the ids in use. -/
theorem Countable.tops (c : g.Countable) :
    g.serialize.topNode = g.lastNode ∧ g.serialize.topLink = g.lastLink := by
  refine ⟨Int.max_eq_right (foldl_max_le_iff.2 ⟨c.lastNode, ?_⟩),
    Int.max_eq_right (foldl_max_le_iff.2 ⟨c.lastLink, ?_⟩)⟩
  · intro id hid
    obtain ⟨n, hn, rfl⟩ := List.mem_map.1 ((ids_serialize_perm g).mem_iff.1 hid)
    exact c.nodes n hn
  · intro id hid
    obtain ⟨l, hl, rfl⟩ := List.mem_map.1 hid
    obtain ⟨id, found⟩ := SortedMap.mem_values_iff.1 hl
    rw [c.keyed id l found]
    exact c.links id l found

theorem serialize_congr (same : g'.toSnapshot = g.toSnapshot) : g'.serialize = g.serialize := by
  rw [serialize, serialize, same]

theorem withPlaceholders_serialize (safe : ∀ n ∈ g.nodes, SafeName n.type)
    (types' : TypeRegistry) : g.serialize.withPlaceholders types' = g.serialize := by
  have same : g.serialize.nodes.map (fun n =>
      if types'.contains n.type then n else { n with type := sanitize n.type }) =
      g.serialize.nodes := by
    refine (List.map_congr_left fun m hm => ?_).trans (List.map_id _)
    obtain ⟨n, hn, rfl⟩ := mem_serialize_nodes.1 hm
    split
    · rfl
    · have kept : sanitize n.toRecord.type = n.toRecord.type := sanitize_of_safe (safe n hn)
      rw [kept]
      rfl
  rw [Snapshot.withPlaceholders, same]

/-- A stored graph can be read, whatever types are there. -/
theorem Sound.ofSnapshot_serialize (h : g.Sound) (types' : TypeRegistry) :
    ∃ g', ofSnapshot g.serialize types' = .ok g' := by
  have ascending : g.serialize.links.Pairwise fun l l' => l.id < l'.id :=
    h.anchored.links_ascending
  have keeps {α : Type} {l base : List α} {i : Nat} (bound : i < l.length) :
      i < (if l.isEmpty then base else l).length := by
    cases l with
    | nil => exact absurd bound (Nat.not_lt_zero i)
    | cons => exact bound
  apply ofSnapshot_succeeds ((ids_serialize_perm g).nodup_iff.2 h.distinct)
  case links => exact List.pairwise_map.2 (ascending.imp fun lt => Int.ne_of_lt lt)
  case leaves =>
    intro l hl
    obtain ⟨id, found⟩ := SortedMap.mem_values_iff.1 hl
    obtain ⟨n, hn, hid, slot⟩ := h.leaves id l found
    exact ⟨n.toRecord, mem_serialize_nodes.2 ⟨n, hn, rfl⟩, hid, keeps slot⟩
  case enters =>
    intro l hl
    obtain ⟨id, found⟩ := SortedMap.mem_values_iff.1 hl
    obtain ⟨n, hn, hid, slot⟩ := h.enters id l found
    exact ⟨n.toRecord, mem_serialize_nodes.2 ⟨n, hn, rfl⟩, hid, keeps slot⟩

theorem eq_of_forall₂ {α : Type} {R : α → α → Prop} {l l' : List α} (h : List.Forall₂ R l l')
    (same : ∀ a ∈ l, ∀ b, R a b → b = a) : l' = l := by
  induction h with
  | nil => rfl
  | cons related _ ih =>
    rw [same _ List.mem_cons_self _ related, ih fun a ha => same a (List.mem_cons_of_mem _ ha)]

section Reload

variable (c : g.Countable) (fit : g.Fits types) (genuine : types.Genuine)
include c fit genuine

/-- A graph that is read from a stored one is stored as that one. -/
theorem serialize_reloaded (within : types'.Within types)
    (safe : ∀ n ∈ g.nodes, SafeName n.type) (built : ofSnapshot g.serialize types' = .ok g') :
    g'.serialize = g.serialize := by
  have distinct : ∀ m ∈ g.serialize.nodes, Members.Distinct m.properties := by
    intro m hm
    obtain ⟨n, hn, rfl⟩ := mem_serialize_nodes.1 hm
    exact (fit n hn).properties
  -- What any snapshot keeps is known; here each node fits its type, so it keeps all of itself.
  have resaved : Snapshot.Resaved types' g.serialize g'.serialize := by
    apply Snapshot.resaved_of_ofSnapshot (genuine.within within) distinct
    rwa [withPlaceholders_serialize safe]
  have nodes : g'.serialize.nodes = g.serialize.nodes := by
    have pairs := resaved.nodes
    rw [show sortById g.serialize.nodes = g.serialize.nodes from sortById_sortById _] at pairs
    refine eq_of_forall₂ pairs fun m hm e survives => ?_
    obtain ⟨n, hn, rfl⟩ := mem_serialize_nodes.1 hm
    exact (fit n hn).survives within (safe n hn) survives
  have links : g'.serialize.links = g.serialize.links := by
    rw [resaved.links]
    exact sortBy_of_ascending (c.anchored.links_ascending.imp fun lt => Int.le_of_lt lt)
  obtain ⟨topNode, topLink⟩ := c.tops
  apply serialize_congr
  simp only [toSnapshot, Snapshot.mk.injEq, true_and]
  exact ⟨resaved.lastNode.trans topNode, resaved.lastLink.trans topLink, nodes, links,
    resaved.groups, resaved.config, resaved.extra, resaved.other⟩

theorem compile_reloaded (built : ofSnapshot g.serialize types = .ok g')
    (same : g'.serialize = g.serialize) : g'.compile = g.compile := by
  obtain ⟨nodes, links, sound', _⟩ := ofSnapshot_ok built
  have links : g'.links = g.links := by
    apply SortedMap.ext_find?
    intro id
    apply Option.ext
    intro l
    rw [links]
    constructor
    · rintro ⟨mem, rfl⟩
      obtain ⟨id, found⟩ := SortedMap.mem_values_iff.1 mem
      rwa [c.keyed id l found]
    · intro found
      exact ⟨SortedMap.mem_values_iff.2 ⟨id, found⟩, c.keyed id l found⟩
  have shown : ∀ id, g'.node? id = (g.node? id).map Node.unremembering := by
    intro id
    apply Option.ext
    intro m
    rw [sound'.node?_eq_some_iff, nodes, List.mem_map, Option.map_eq_some_iff]
    constructor
    · rintro ⟨⟨_, listed, rfl⟩, rfl⟩
      obtain ⟨n, hn, rfl⟩ := mem_serialize_nodes.1 listed
      refine ⟨n, c.node?_eq_some_iff.2 ⟨hn, rfl⟩, ?_⟩
      exact ((fit n hn).toNode genuine).symm
    · rintro ⟨n, found, rfl⟩
      obtain ⟨hn, hid⟩ := c.node?_eq_some_iff.1 found
      exact ⟨⟨n.toRecord, mem_serialize_nodes.2 ⟨n, hn, rfl⟩, (fit n hn).toNode genuine⟩, hid⟩
  have compiled : ∀ id, (g'.node? id).map Node.compiled = (g.node? id).map Node.compiled := by
    intro id
    rw [shown, Option.map_map]
    rfl
  rw [compile, compile, same, prompt_congr c.anchored sound'.anchored links compiled]

end Reload

/-- A graph whose nodes come from types and snapshots of a registry is read again, with all of the
types or some, as what is stored of it, and with all of them as what it compiles to. -/
theorem Reachable.reloads (h : Reachable (fun g op => op.Under types g) g)
    (genuine : types.Genuine) (safe : ∀ n ∈ g.nodes, SafeName n.type) {r : ExtensionRegistry}
    (plain : r.plugins = []) (within : r.types.Within types) :
    ∃ i, g.serialize.load r = .ok i ∧ i.graph.serialize = g.serialize ∧
      (r.types = types → i.graph.compile = g.compile) := by
  have c := Countable.of_reachable h
  have fit := h.fits genuine
  obtain ⟨g', built⟩ := c.toSound.ofSnapshot_serialize r.types
  have same := serialize_reloaded c fit genuine within safe built
  have built' := built
  rw [← withPlaceholders_serialize safe r.types] at built'
  obtain ⟨i, ok, rfl⟩ := Snapshot.load_of_plain plain built'
  refine ⟨i, ok, same, fun all => ?_⟩
  rw [all] at built
  exact compile_reloaded c fit genuine built same

/-- A type with a widget is gone when a graph that was edited comes back. -/
theorem reloaded_without_types :
    let amount : Value := .object [("kind", .string "number"),
      ("widget", .object [("kind", .string "number"), ("default", .ofInt 5)])]
    let pay : Value := .object [("display_name", .string "Pay"),
      ("input", .object [("required_inputs", .object [("amount", amount)])]),
      ("output", .object [("name", .string "out"), ("kind", .string "*")])]
    let core : Value := .object [("core", .object [("name", .string "core"),
      ("nodes", .object [("Pay", pay)])])]
    let stored : Snapshot := {
      nodes := [
        { id := 4, type := "Pay", widgetValues := [.ofInt 1, .ofInt 2] },
        { id := -7, type := "G<host>", inputs := [{ name := "in" }] }] }
    ∃ r t g i, ({} : ExtensionRegistry).load core = .ok r ∧ r.types.find? "Pay" = some t ∧
      Graph.empty.run [.load stored r, .addNode t.template, .connect 5 0 (-7) 0,
        .edit 5 (.widget "amount" (.ofInt 9))] = some g ∧
      g.serialize.load {} = .ok i ∧ i.graph.serialize = g.serialize := by
  intro amount pay core stored
  let r := (({} : ExtensionRegistry).load core).toOption.getD {}
  have loaded : ({} : ExtensionRegistry).load core = .ok r := rfl
  let t := (r.types.find? "Pay").get (by decide +kernel)
  have found : r.types.find? "Pay" = some t := (Option.some_get _).symm
  let ops : List Operation := [.load stored r, .addNode t.template, .connect 5 0 (-7) 0,
    .edit 5 (.widget "amount" (.ofInt 9))]
  let g := (Graph.empty.run ops).get (by decide +kernel)
  have ran : Graph.empty.run ops = some g := (Option.some_get _).symm
  have genuine : r.types.Genuine := ExtensionRegistry.genuine_load .empty loaded
  have fresh : ∃ t', r.types.find? t.template.type = some t' ∧
      t.template = { t'.template with id := t.template.id } := by
    rw [(genuine "Pay" t found).1]
    exact ⟨t, found, rfl⟩
  have under : Reachable (fun g op => op.Under r.types g) g := by
    apply Reachable.of_run .empty ?_ ran
    simp [ops, Operation.Under, NodeEdit.KeepsWidgets, fresh]
  have safe : ∀ n ∈ g.nodes, SafeName n.type := by decide +kernel
  have within : TypeRegistry.Within .empty r.types := by
    intro _ _ found
    cases found
  obtain ⟨i, ok, same, _⟩ := under.reloads (r := {}) genuine safe rfl within
  exact ⟨r, t, g, i, loaded, found, ran, ok, same⟩

end Graph

end Flowgraph
