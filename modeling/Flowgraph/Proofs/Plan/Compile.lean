import Flowgraph.Proofs.Graph.Fit
import Flowgraph.Proofs.Json.Token
import Flowgraph.Proofs.Plan.Prompt
import Flowgraph.Proofs.Sorting

namespace Flowgraph

open Json

/-- The last element of a list with a property, by its position. -/
def LastAt {α : Type} (l : List α) (P : Nat → α → Prop) (i : Nat) (a : α) : Prop :=
  l[i]? = some a ∧ P i a ∧ ∀ j b, i < j → l[j]? = some b → ¬P j b

namespace Json.Members

variable {α : Type} {l : List α} {entry : α → Option (String × Value)} {k : String}

theorem mem_keys_filterMap : k ∈ (l.filterMap entry).map Prod.fst ↔
    ∃ (i : Nat) (a : α) (v : Value), l[i]? = some a ∧ entry a = some (k, v) := by
  simp only [List.mem_map, List.mem_filterMap, List.mem_iff_getElem? (l := l)]
  constructor
  · rintro ⟨⟨_, v⟩, ⟨a, ⟨i, at_⟩, listed⟩, rfl⟩
    exact ⟨i, a, v, at_, listed⟩
  · rintro ⟨i, a, v, at_, listed⟩
    exact ⟨(k, v), ⟨a, ⟨i, at_⟩, listed⟩, rfl⟩

theorem get?_reverse_of_last {i : Nat} {a : α} {v : Value} (listed : entry a = some (k, v))
    (last : LastAt l (fun _ a => ∃ v, entry a = some (k, v)) i a) :
    get? k (l.filterMap entry).reverse = some v := by
  obtain ⟨at_, _, later⟩ := last
  obtain ⟨bound, rfl⟩ := List.getElem?_eq_some_iff.1 at_
  have parts : l = l.take i ++ l[i] :: l.drop (i + 1) := by
    rw [List.getElem_cons_drop, List.take_append_drop]
  have none : get? k ((l.drop (i + 1)).filterMap entry).reverse = none := by
    apply get?_eq_none
    rw [List.map_reverse, List.mem_reverse, mem_keys_filterMap]
    rintro ⟨j, b, w, there, listed⟩
    rw [List.getElem?_drop] at there
    exact later _ b (by omega) there ⟨w, listed⟩
  rw [parts, List.filterMap_append, List.filterMap_cons, listed, List.reverse_append,
    List.reverse_cons, List.append_assoc, get?_append, none, Option.none_or]
  exact if_pos rfl

theorem get?_reverse_of_absent
    (absent : ∀ (i : Nat) (a : α) (v : Value), l[i]? = some a → entry a ≠ some (k, v)) :
    get? k (l.filterMap entry).reverse = none := by
  apply get?_eq_none
  rw [List.map_reverse, List.mem_reverse, mem_keys_filterMap]
  rintro ⟨i, a, v, at_, listed⟩
  exact absent i a v at_ listed

end Json.Members

namespace Graph

variable {g g' : Graph} {n : Node}

/-- A slot with a name that a link feeds. -/
def Feeding (g : Graph) (n : Node) (name : String) (slot : Nat) (s : InputSlot) : Prop :=
  s.name = name ∧ ∃ l, g.inputLink? n.id slot = some l

/-- A widget with a name whose value is compiled. -/
def Valued (name : String) (_ : Nat) (w : Widget) : Prop := w.name = name ∧ w.compiled = true

/-- What a plan says of a node: its type, its title without markup, and its inputs by name, each the
reference to the origin of the last link under the name, or else the value of the last widget. -/
structure Describes (g : Graph) (n : Node) (p : PlanNode) : Prop where
  type : p.type = n.type
  name : p.name = sanitize n.title
  distinct : Members.Distinct p.inputs
  names : ∀ name, name ∈ p.inputs.map Prod.fst ↔
    (∃ i w, n.widgets[i]? = some w ∧ Valued name i w) ∨
      ∃ i s, n.inputs[i]? = some s ∧ g.Feeding n name i s
  linked : ∀ name i s l, LastAt n.inputs (g.Feeding n name) i s →
    g.inputLink? n.id i = some l →
      Members.get? name p.inputs = some (.object [("originId", .string (toString l.origin))])
  valued : ∀ name i w, (∀ j s, n.inputs[j]? = some s → ¬g.Feeding n name j s) →
    LastAt n.widgets (Valued name) i w → Members.get? name p.inputs = some w.value

theorem originReference_eq (l : Link) :
    originReference l = .object [("originId", .string (toString l.origin))] := by
  rw [originReference, ofList_integerText]

def widgetEntry (w : Widget) : Option (String × Value) :=
  if w.compiled then some (w.name, w.value) else none

def slotEntry (g : Graph) (n : Node) (p : InputSlot × Nat) : Option (String × Value) :=
  (g.inputLink? n.id p.2).map fun l => (p.1.name, originReference l)

theorem widgetInputs_eq (n : Node) : widgetInputs n = n.widgets.filterMap widgetEntry := by
  unfold widgetInputs widgetEntry
  induction n.widgets with
  | nil => rfl
  | cons w ws ih =>
    cases compiled : w.compiled <;> simp [compiled, ih]

theorem widgetEntry_eq_some_iff {w : Widget} {name : String} {v : Value} :
    widgetEntry w = some (name, v) ↔ (w.name = name ∧ w.compiled = true) ∧ w.value = v := by
  unfold widgetEntry
  cases w.compiled <;> simp

theorem slotEntry_eq_some_iff {p : InputSlot × Nat} {name : String} {v : Value} :
    g.slotEntry n p = some (name, v) ↔
      ∃ l, g.inputLink? n.id p.2 = some l ∧ p.1.name = name ∧ originReference l = v := by
  simp [slotEntry, Option.map_eq_some_iff]

theorem slotEntry_feeding {s : InputSlot} {i : Nat} {name : String} :
    (∃ v, g.slotEntry n (s, i) = some (name, v)) ↔ g.Feeding n name i s := by
  simp only [slotEntry_eq_some_iff, Feeding]
  constructor
  · rintro ⟨_, l, found, named, rfl⟩
    exact ⟨named, l, found⟩
  · rintro ⟨named, l, found⟩
    exact ⟨_, l, found, named, rfl⟩

theorem getElem?_zipIdx {l : List InputSlot} {i : Nat} {p : InputSlot × Nat} :
    l.zipIdx[i]? = some p ↔ l[i]? = some p.1 ∧ p.2 = i := by
  rw [List.getElem?_zipIdx, Option.map_eq_some_iff]
  constructor
  · rintro ⟨s, at_, rfl⟩
    exact ⟨at_, Nat.zero_add i⟩
  · rintro ⟨at_, place⟩
    exact ⟨p.1, at_, by rw [Nat.zero_add, ← place]⟩

theorem linkInputs_eq (g : Graph) (n : Node) :
    g.linkInputs n = n.inputs.zipIdx.filterMap (g.slotEntry n) := rfl

section Inputs

variable {name : String}

/-- Links are read before widgets, and later ones before earlier ones. -/
theorem get?_planNode (g : Graph) (n : Node) (name : String) :
    Members.get? name (g.planNode n).inputs =
      (Members.get? name (n.inputs.zipIdx.filterMap (g.slotEntry n)).reverse).or
        (Members.get? name (n.widgets.filterMap widgetEntry).reverse) := by
  rw [planNode, Members.get?_ofList, List.reverse_append, Members.get?_append, widgetInputs_eq,
    linkInputs_eq]

theorem mem_inputs_planNode : name ∈ (g.planNode n).inputs.map Prod.fst ↔
    (∃ (i : Nat) (w : Widget), n.widgets[i]? = some w ∧ Valued name i w) ∨
      ∃ (i : Nat) (s : InputSlot), n.inputs[i]? = some s ∧ g.Feeding n name i s := by
  have keys : name ∈ (g.planNode n).inputs.map Prod.fst ↔
      name ∈ (widgetInputs n ++ g.linkInputs n).map Prod.fst := by
    rw [Members.mem_keys_iff, planNode, Members.get?_ofList, ← List.mem_reverse,
      ← List.map_reverse, Members.mem_keys_iff]
  rw [keys, List.map_append, List.mem_append, widgetInputs_eq, linkInputs_eq,
    Members.mem_keys_filterMap, Members.mem_keys_filterMap]
  apply or_congr
  · simp only [widgetEntry_eq_some_iff, Valued]
    constructor
    · rintro ⟨i, w, _, at_, valued, _⟩
      exact ⟨i, w, at_, valued⟩
    · rintro ⟨i, w, at_, valued⟩
      exact ⟨i, w, w.value, at_, valued, rfl⟩
  · constructor
    · rintro ⟨i, ⟨s, j⟩, v, at_, listed⟩
      obtain ⟨at_, rfl⟩ := getElem?_zipIdx.1 at_
      exact ⟨_, s, at_, slotEntry_feeding.1 ⟨v, listed⟩⟩
    · rintro ⟨i, s, at_, feeding⟩
      obtain ⟨v, listed⟩ := slotEntry_feeding.2 feeding
      exact ⟨i, (s, i), v, getElem?_zipIdx.2 ⟨at_, rfl⟩, listed⟩

theorem get?_planNode_of_fed {i : Nat} {s : InputSlot} {l : Link}
    (last : LastAt n.inputs (g.Feeding n name) i s) (found : g.inputLink? n.id i = some l) :
    Members.get? name (g.planNode n).inputs =
      some (.object [("originId", .string (toString l.origin))]) := by
  rw [← originReference_eq]
  obtain ⟨at_, feeding, later⟩ := last
  have listed : g.slotEntry n (s, i) = some (name, originReference l) :=
    slotEntry_eq_some_iff.2 ⟨l, found, feeding.1, rfl⟩
  have last : LastAt n.inputs.zipIdx (fun _ p => ∃ v, g.slotEntry n p = some (name, v)) i
      (s, i) := by
    refine ⟨getElem?_zipIdx.2 ⟨at_, rfl⟩, ⟨_, listed⟩, ?_⟩
    intro j (s', j') lt there
    obtain ⟨there, rfl⟩ := getElem?_zipIdx.1 there
    exact mt slotEntry_feeding.1 (later _ s' lt there)
  rw [get?_planNode, Members.get?_reverse_of_last listed last]
  rfl

theorem get?_planNode_of_unfed {i : Nat} {w : Widget}
    (unfed : ∀ (j : Nat) (s : InputSlot), n.inputs[j]? = some s → ¬g.Feeding n name j s)
    (last : LastAt n.widgets (Valued name) i w) :
    Members.get? name (g.planNode n).inputs = some w.value := by
  obtain ⟨at_, valued, later⟩ := last
  have listed : widgetEntry w = some (name, w.value) := widgetEntry_eq_some_iff.2 ⟨valued, rfl⟩
  have last : LastAt n.widgets (fun _ w => ∃ v, widgetEntry w = some (name, v)) i w := by
    refine ⟨at_, ⟨_, listed⟩, ?_⟩
    intro j w' lt there ⟨v, listed⟩
    exact later j w' lt there (widgetEntry_eq_some_iff.1 listed).1
  have absent : ∀ (j : Nat) (p : InputSlot × Nat) (v : Value),
      n.inputs.zipIdx[j]? = some p → g.slotEntry n p ≠ some (name, v) := by
    intro j (s, j') v there listed
    obtain ⟨there, rfl⟩ := getElem?_zipIdx.1 there
    exact unfed _ s there (slotEntry_feeding.1 ⟨v, listed⟩)
  rw [get?_planNode, Members.get?_reverse_of_absent absent, Option.none_or,
    Members.get?_reverse_of_last listed last]

end Inputs

theorem describes_planNode (g : Graph) (n : Node) : g.Describes n (g.planNode n) where
  type := rfl
  name := rfl
  distinct := .ofList _
  names _ := mem_inputs_planNode
  linked _ _ _ _ last found := get?_planNode_of_fed last found
  valued _ _ _ unfed last := get?_planNode_of_unfed unfed last

/-- The plan has entries for the nodes that are to run, and they say what the nodes say. -/
structure Tells (g : Graph) : Prop where
  keys : ∀ id, g.compile.prompt.contains id = true ↔ ∃ n ∈ g.nodes, n.id = id ∧ n.mode ≠ .never
  entries : ∀ n ∈ g.nodes, n.mode ≠ .never →
    ∃ p, g.compile.prompt.find? n.id = some p ∧ g.Describes n p

theorem Anchored.find?_prompt_iff (a : g.Anchored) {id : NodeId} {p : PlanNode} :
    g.prompt.find? id = some p ↔
      ∃ n, g.node? id = some n ∧ n.mode ≠ .never ∧ p = g.planNode n := by
  rw [find?_prompt a, Option.map_eq_some_iff]
  constructor
  · rintro ⟨e, planned, rfl⟩
    obtain ⟨n, found, runs, rfl⟩ := planEntry?_eq_some_iff.1 planned
    exact ⟨n, found, runs, rfl⟩
  · rintro ⟨n, found, runs, rfl⟩
    exact ⟨_, planEntry?_eq_some_iff.2 ⟨n, found, runs, rfl⟩, rfl⟩

theorem Sound.tells (h : g.Sound) : g.Tells where
  keys id := by
    rw [SortedMap.contains, Option.isSome_iff_exists]
    constructor
    · rintro ⟨p, planned⟩
      obtain ⟨n, found, runs, _⟩ := h.anchored.find?_prompt_iff.1 planned
      obtain ⟨hn, hid⟩ := h.anchored.mem_of_node? found
      exact ⟨n, hn, hid, runs⟩
    · rintro ⟨n, hn, rfl, runs⟩
      have found := h.node?_eq_some_iff.2 ⟨hn, rfl⟩
      exact ⟨_, h.anchored.find?_prompt_iff.2 ⟨n, found, runs, rfl⟩⟩
  entries n hn runs := by
    have found := h.node?_eq_some_iff.2 ⟨hn, rfl⟩
    exact ⟨_, h.anchored.find?_prompt_iff.2 ⟨n, found, runs, rfl⟩, describes_planNode g n⟩

/-- The same graph, but for the order in which its nodes were added. -/
structure Reorders (g' g : Graph) : Prop where
  nodes : g'.nodes.Perm g.nodes
  rest : { g' with nodes := g.nodes, index := g.index } = g

theorem Reorders.toSnapshot (r : g'.Reorders g) (distinct : (g.nodes.map (·.id)).Nodup) :
    g'.toSnapshot = g.toSnapshot := by
  have perm := r.nodes.map Node.toRecord
  have ids : ((g.nodes.map Node.toRecord).map (·.id)).Nodup := by
    rw [List.map_map]
    exact distinct
  have sorted : sortBy (·.id) (g'.nodes.map Node.toRecord) =
      sortBy (·.id) (g.nodes.map Node.toRecord) :=
    (sortBy_eq_of_perm ids ((sortBy_perm _ _).trans perm) (sortBy_ascending _ _)).symm
  have same : { g'.toSnapshot with nodes := [] } = { g.toSnapshot with nodes := [] } :=
    congrArg (fun g : Graph => { g.toSnapshot with nodes := [] }) r.rest
  simp only [Graph.toSnapshot, Snapshot.mk.injEq, true_and] at same ⊢
  exact ⟨same.1, same.2.1, sorted, same.2.2⟩

theorem Reorders.compile (r : g'.Reorders g) (h : g.Sound) (h' : g'.Sound) :
    g'.compile = g.compile := by
  have links : g'.links = g.links := by
    have same := congrArg Graph.links r.rest
    exact same
  have nodes (id : NodeId) : g'.node? id = g.node? id := by
    apply Option.ext
    intro n
    rw [h'.node?_eq_some_iff, h.node?_eq_some_iff, r.nodes.mem_iff]
  have workflow : g'.serialize = g.serialize := by
    rw [serialize, serialize, r.toSnapshot h.distinct]
  have prompt : g'.prompt = g.prompt :=
    prompt_congr h.anchored h'.anchored links fun id => by rw [nodes]
  rw [Graph.compile, Graph.compile, workflow, prompt]

/-- A plan is made of the stored graph, of a prompt that tells just the nodes that are to run, and of
their checksum. The order in which nodes were added does not matter. -/
theorem Reachable.compile_tells {allowed : Graph → Operation → Prop} (h : Reachable allowed g) :
    g.compile.workflow = g.serialize ∧
      g.compile.checksum = planChecksum g.compile.prompt g.serialize.checksum ∧
      g.compile.promptId = none ∧ g.Tells ∧
      ∀ g', Reachable allowed g' → g'.Reorders g → g'.compile = g.compile := by
  have sound := (WellFormed.of_reachable h).toSound
  refine ⟨rfl, rfl, rfl, sound.tells, fun g' h' reordered => ?_⟩
  exact reordered.compile sound (WellFormed.of_reachable h').toSound

/-- Two nodes that feed each other and the nodes stored in the other order. -/
theorem compiled_cycle_either_way :
    let first : NodeRecord := {
      id := 1, type := "Both", inputs := [{ name := "a", link := some 2 }]
      outputs := [{ name := "out", links := [1] }] }
    let second : NodeRecord := {
      id := 2, type := "Both", inputs := [{ name := "a", link := some 1 }]
      outputs := [{ name := "out", links := [2] }] }
    let stored (nodes : List NodeRecord) : Snapshot := {
      nodes := nodes, links := [⟨1, 1, 0, 2, 0, .null⟩, ⟨2, 2, 0, 1, 0, .null⟩]
      lastNode := 2, lastLink := 2 }
    ∃ g g', Graph.empty.run [.load (stored [first, second]) {}] = some g ∧
      Graph.empty.run [.load (stored [second, first]) {}] = some g' ∧
      g.compile.prompt.entries.map (fun e => (e.1, e.2.inputs.map Prod.fst)) =
        [(1, ["a"]), (2, ["a"])] ∧ g.Tells ∧ g'.compile = g.compile := by
  intro first second stored
  let g := (Graph.empty.run [.load (stored [first, second]) {}]).get (by decide)
  let g' := (Graph.empty.run [.load (stored [second, first]) {}]).get (by decide)
  have ran : Graph.empty.run [.load (stored [first, second]) {}] = some g :=
    (Option.some_get _).symm
  have ran' : Graph.empty.run [.load (stored [second, first]) {}] = some g' :=
    (Option.some_get _).symm
  have reachable : Reachable (fun _ _ => True) g := .of_run .empty (fun _ _ _ => trivial) ran
  have reachable' : Reachable (fun _ _ => True) g' := .of_run .empty (fun _ _ _ => trivial) ran'
  have reordered : g'.Reorders g := ⟨.swap _ _ _, rfl⟩
  obtain ⟨_, _, _, tells, either⟩ := reachable.compile_tells
  exact ⟨g, g', ran, ran', by decide, tells, either g' reachable' reordered⟩

end Graph

end Flowgraph
