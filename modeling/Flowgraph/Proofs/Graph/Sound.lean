import Flowgraph.Proofs.Graph.Operation

namespace Flowgraph

/-- What links can refer to: the id of a node and the numbers of its slots. -/
def Node.ports (n : Node) : NodeId × Nat × Nat := (n.id, n.inputs.length, n.outputs.length)

namespace Graph

/-- Ids name one node each, the index finds it, and links are stored under their ids between
slots that exist. -/
structure Sound (g : Graph) : Prop where
  distinct : (g.nodes.map (·.id)).Nodup
  indexed : ∀ id i, g.index.find? id = some i ↔ g.nodes[i]?.map (·.id) = some id
  keyed : ∀ id l, g.links.find? id = some l → l.id = id
  leaves : ∀ id l, g.links.find? id = some l →
    ∃ n ∈ g.nodes, n.id = l.origin ∧ l.originSlot < n.outputs.length
  enters : ∀ id l, g.links.find? id = some l →
    ∃ n ∈ g.nodes, n.id = l.target ∧ l.targetSlot < n.inputs.length

/-- As much of it as does not need the ids to be distinct. -/
structure Anchored (g : Graph) : Prop where
  placed : ∀ id i, g.index.find? id = some i → g.nodes[i]?.map (·.id) = some id
  listed : ∀ n ∈ g.nodes, g.hasNode n.id = true
  keyed : ∀ id l, g.links.find? id = some l → l.id = id
  leaves : ∀ id l, g.links.find? id = some l →
    ∃ n ∈ g.nodes, n.id = l.origin ∧ l.originSlot < n.outputs.length
  enters : ∀ id l, g.links.find? id = some l →
    ∃ n ∈ g.nodes, n.id = l.target ∧ l.targetSlot < n.inputs.length

/-- The counters are no smaller than any id in use. -/
structure Bounded (g : Graph) : Prop where
  nodes : ∀ n ∈ g.nodes, n.id ≤ g.lastNode
  links : ∀ id l, g.links.find? id = some l → id ≤ g.lastLink

theorem Sound.anchored {g : Graph} (h : g.Sound) : g.Anchored where
  placed id i found := (h.indexed id i).1 found
  listed n hn := by
    obtain ⟨i, hi⟩ := List.mem_iff_getElem?.1 hn
    have found : g.index.find? n.id = some i := (h.indexed _ i).2 (by rw [hi, Option.map_some])
    rw [hasNode, SortedMap.contains, found, Option.isSome_some]
  keyed := h.keyed
  leaves := h.leaves
  enters := h.enters

theorem Anchored.sound {g : Graph} (a : g.Anchored) (distinct : (g.nodes.map (·.id)).Nodup) :
    g.Sound where
  distinct := distinct
  indexed id i := by
    refine ⟨a.placed id i, fun here => ?_⟩
    obtain ⟨n, hn, rfl⟩ := Option.map_eq_some_iff.1 here
    obtain ⟨j, found⟩ := Option.isSome_iff_exists.1 (a.listed n (List.mem_of_getElem? hn))
    have there := a.placed _ _ found
    rw [← List.getElem?_map] at here there
    obtain ⟨bound, _⟩ := List.getElem?_eq_some_iff.1 here
    rw [found, (List.getElem?_inj bound distinct).1 (here.trans there.symm)]
  keyed := a.keyed
  leaves := a.leaves
  enters := a.enters

/-- A graph with the nodes of another up to what their slots and fields hold, and with some of its
links. -/
structure Thinner (g' g : Graph) : Prop where
  ports : g'.nodes.map Node.ports = g.nodes.map Node.ports
  index : g'.index = g.index
  links : ∀ id l, g'.links.find? id = some l → g.links.find? id = some l
  lastNode : g'.lastNode = g.lastNode
  lastLink : g'.lastLink = g.lastLink

section Thinner

variable {g g' g'' : Graph}

theorem Thinner.refl (g : Graph) : Thinner g g := ⟨rfl, rfl, fun _ _ h => h, rfl, rfl⟩

theorem Thinner.trans (h : Thinner g'' g') (h' : Thinner g' g) : Thinner g'' g where
  ports := h.ports.trans h'.ports
  index := h.index.trans h'.index
  links id l found := h'.links id l (h.links id l found)
  lastNode := h.lastNode.trans h'.lastNode
  lastLink := h.lastLink.trans h'.lastLink

theorem Thinner.ids (h : Thinner g' g) : g'.nodes.map (·.id) = g.nodes.map (·.id) := by
  have eq := congrArg (List.map Prod.fst) h.ports
  simpa [Node.ports, Function.comp_def] using eq

theorem Thinner.mem (h : Thinner g' g) {n : Node} (hn : n ∈ g.nodes) :
    ∃ n' ∈ g'.nodes, n'.ports = n.ports := by
  have mem : n.ports ∈ g'.nodes.map Node.ports := by
    rw [h.ports]
    exact List.mem_map_of_mem hn
  exact List.mem_map.1 mem

theorem Anchored.thinner (a : g.Anchored) (t : Thinner g' g) : g'.Anchored where
  placed id i found := by
    rw [t.index] at found
    rw [← List.getElem?_map, t.ids, List.getElem?_map]
    exact a.placed id i found
  listed n hn := by
    have mem : n.id ∈ g.nodes.map (·.id) := by
      rw [← t.ids]
      exact List.mem_map_of_mem hn
    obtain ⟨m, hm, same⟩ := List.mem_map.1 mem
    rw [hasNode, t.index, ← same]
    exact a.listed m hm
  keyed id l found := a.keyed id l (t.links id l found)
  leaves id l found := by
    obtain ⟨n, hn, hid, hslot⟩ := a.leaves id l (t.links id l found)
    obtain ⟨n', hn', same⟩ := t.mem hn
    simp only [Node.ports, Prod.mk.injEq] at same
    exact ⟨n', hn', same.1.trans hid, by omega⟩
  enters id l found := by
    obtain ⟨n, hn, hid, hslot⟩ := a.enters id l (t.links id l found)
    obtain ⟨n', hn', same⟩ := t.mem hn
    simp only [Node.ports, Prod.mk.injEq] at same
    exact ⟨n', hn', same.1.trans hid, by omega⟩

theorem Sound.thinner (h : g.Sound) (t : Thinner g' g) : g'.Sound := by
  apply (h.anchored.thinner t).sound
  rw [t.ids]
  exact h.distinct

theorem Bounded.thinner (h : g.Bounded) (t : Thinner g' g) : g'.Bounded where
  nodes n hn := by
    have mem : n.id ∈ g.nodes.map (·.id) := by
      rw [← t.ids]
      exact List.mem_map_of_mem hn
    obtain ⟨m, hm, same⟩ := List.mem_map.1 mem
    rw [t.lastNode, ← same]
    exact h.nodes m hm
  links id l found := by
    rw [t.lastLink]
    exact h.links id l (t.links id l found)

end Thinner

section Modify

variable {g : Graph} {id : NodeId} {f : Node → Node}

@[simp] theorem modifyNode_index (g : Graph) (id : NodeId) (f : Node → Node) :
    (g.modifyNode id f).index = g.index := by
  unfold modifyNode
  split <;> rfl

@[simp] theorem modifyNode_links (g : Graph) (id : NodeId) (f : Node → Node) :
    (g.modifyNode id f).links = g.links := by
  unfold modifyNode
  split <;> rfl

@[simp] theorem modifyNode_lastNode (g : Graph) (id : NodeId) (f : Node → Node) :
    (g.modifyNode id f).lastNode = g.lastNode := by
  unfold modifyNode
  split <;> rfl

@[simp] theorem modifyNode_lastLink (g : Graph) (id : NodeId) (f : Node → Node) :
    (g.modifyNode id f).lastLink = g.lastLink := by
  unfold modifyNode
  split <;> rfl

theorem modifyNode_map {α : Type} {p : Node → α} (hf : ∀ n, p (f n) = p n) :
    (g.modifyNode id f).nodes.map p = g.nodes.map p := by
  unfold modifyNode
  split
  · apply List.ext_getElem?
    intro i
    simp only [List.getElem?_map, List.getElem?_modify]
    cases g.nodes[i]? with
    | none => rfl
    | some n =>
      simp only [Option.map_eq_map, Option.map_some]
      split
      · rw [hf]
      · rfl
  · rfl

theorem modifyNode_thinner (hf : ∀ n, (f n).ports = n.ports) :
    Thinner (g.modifyNode id f) g where
  ports := modifyNode_map hf
  index := modifyNode_index g id f
  links k l found := by rwa [modifyNode_links] at found
  lastNode := modifyNode_lastNode g id f
  lastLink := modifyNode_lastLink g id f

theorem KeepsSlots.thinner (hf : Node.KeepsSlots f) : Thinner (g.modifyNode id f) g :=
  modifyNode_thinner fun n => by simp [Node.ports, hf n]

theorem modifyInput_thinner (g : Graph) (id : NodeId) (slot : Nat) (f : InputSlot → InputSlot) :
    Thinner (g.modifyInput id slot f) g :=
  modifyNode_thinner fun n => by simp [Node.ports]

theorem modifyOutput_thinner (g : Graph) (id : NodeId) (slot : Nat)
    (f : OutputSlot → OutputSlot) :
    Thinner (g.modifyOutput id slot f) g :=
  modifyNode_thinner fun n => by simp [Node.ports]

end Modify

section Index

variable {g : Graph} {nodes : List Node} {id : NodeId}

theorem placed_indexOf {i : Nat} (found : (indexOf nodes).find? id = some i) :
    nodes[i]?.map (·.id) = some id := by
  have mem := (SortedMap.mem_of_find?_insertMany found).resolve_right (by simp)
  obtain ⟨j, bound, same⟩ := List.mem_mapIdx.1 mem
  simp only [Prod.mk.injEq] at same
  obtain ⟨rfl, rfl⟩ := same
  simp [bound]

theorem listed_indexOf {n : Node} (hn : n ∈ nodes) : (indexOf nodes).contains n.id = true := by
  obtain ⟨i, bound, rfl⟩ := List.mem_iff_getElem.1 hn
  refine SortedMap.contains_insertMany (.inl (List.mem_map.2 ⟨(nodes[i].id, i), ?_, rfl⟩))
  exact List.mem_mapIdx.2 ⟨i, bound, rfl⟩

theorem Anchored.hasNode_iff (a : g.Anchored) :
    g.hasNode id = true ↔ ∃ n ∈ g.nodes, n.id = id := by
  constructor
  · intro has
    obtain ⟨i, found⟩ := Option.isSome_iff_exists.1 has
    obtain ⟨n, hn, hid⟩ := Option.map_eq_some_iff.1 (a.placed id i found)
    exact ⟨n, List.mem_of_getElem? hn, hid⟩
  · rintro ⟨n, hn, rfl⟩
    exact a.listed n hn

theorem Sound.hasNode_eq_false_iff (h : g.Sound) :
    g.hasNode id = false ↔ ∀ n ∈ g.nodes, n.id ≠ id := by
  simp [Bool.eq_false_iff, h.anchored.hasNode_iff]

theorem Anchored.mem_of_node? (a : g.Anchored) {n : Node} (found : g.node? id = some n) :
    n ∈ g.nodes ∧ n.id = id := by
  obtain ⟨i, at_, hn⟩ := Option.bind_eq_some_iff.1 found
  have here := a.placed id i at_
  rw [hn, Option.map_some, Option.some.injEq] at here
  exact ⟨List.mem_of_getElem? hn, here⟩

theorem Sound.node?_eq_some_iff (h : g.Sound) {n : Node} :
    g.node? id = some n ↔ n ∈ g.nodes ∧ n.id = id := by
  refine ⟨h.anchored.mem_of_node?, ?_⟩
  rintro ⟨hn, hid⟩
  obtain ⟨i, hi⟩ := List.mem_iff_getElem?.1 hn
  have found : g.index.find? id = some i := (h.indexed id i).2 (by simp [hi, hid])
  exact Option.bind_eq_some_iff.2 ⟨i, found, hi⟩

end Index

section Edits

variable {g g' : Graph}

section Empty

variable {groups : List Json.Value} {config extra other : Json.Members}

theorem Sound.empty :
    Sound { groups := groups, config := config, extra := extra, other := other } where
  distinct := .nil
  indexed id i := by simp
  keyed id l found := by simp at found
  leaves id l found := by simp at found
  enters id l found := by simp at found

theorem Bounded.empty :
    Bounded { groups := groups, config := config, extra := extra, other := other } where
  nodes n hn := by simp at hn
  links id l found := by simp at found

end Empty

def push (g : Graph) (n : Node) (last : NodeId) : Graph :=
  { g with
    nodes := g.nodes ++ [n]
    index := g.index.insert n.id g.nodes.length
    lastNode := last }

theorem Anchored.push (a : g.Anchored) (n : Node) (last : NodeId) :
    (g.push n last).Anchored where
  placed id i found := by
    simp only [Graph.push, SortedMap.find?_insert] at found ⊢
    split at found
    · next same =>
      simp only [Option.some.injEq] at found
      simp [← found, same]
    · have place := a.placed id i found
      obtain ⟨m, hm, _⟩ := Option.map_eq_some_iff.1 place
      rwa [List.getElem?_append_left (List.getElem?_eq_some_iff.1 hm).1]
  listed m hm := by
    rw [hasNode, SortedMap.contains, Graph.push, SortedMap.find?_insert]
    split
    · rfl
    · next other =>
      simp only [Graph.push, List.mem_append, List.mem_singleton] at hm
      rcases hm with hm | rfl
      · exact a.listed m hm
      · exact absurd rfl other
  keyed := a.keyed
  leaves id l found := by
    obtain ⟨m, hm, rest⟩ := a.leaves id l found
    exact ⟨m, List.mem_append_left _ hm, rest⟩
  enters id l found := by
    obtain ⟨m, hm, rest⟩ := a.enters id l found
    exact ⟨m, List.mem_append_left _ hm, rest⟩

theorem Sound.push (h : g.Sound) {n : Node} (free : g.hasNode n.id = false) (last : NodeId) :
    (g.push n last).Sound := by
  apply (h.anchored.push n last).sound
  have absent := h.hasNode_eq_false_iff.1 free
  simpa [Graph.push, List.nodup_append, h.distinct] using absent

theorem Bounded.push (h : g.Bounded) (n : Node) :
    (g.push n (max g.lastNode n.id)).Bounded where
  nodes m hm := by
    simp only [Graph.push, List.mem_append, List.mem_singleton] at hm ⊢
    rcases hm with hm | rfl
    · exact Int.le_trans (h.nodes m hm) (Int.le_max_left _ _)
    · exact Int.le_max_right _ _
  links := h.links

/-- A graph with one more link in its table. -/
def file (g : Graph) (l : Link) (last : LinkId) : Graph :=
  { g with links := g.links.insert l.id l, lastLink := last }

theorem Anchored.file (a : g.Anchored) {l : Link} (last : LinkId)
    (leaves : ∃ n ∈ g.nodes, n.id = l.origin ∧ l.originSlot < n.outputs.length)
    (enters : ∃ n ∈ g.nodes, n.id = l.target ∧ l.targetSlot < n.inputs.length) :
    (g.file l last).Anchored where
  placed := a.placed
  listed := a.listed
  keyed id k found := by
    simp only [Graph.file, SortedMap.find?_insert] at found
    split at found
    · next same => simp only [Option.some.injEq] at found; rw [same, found]
    · exact a.keyed id k found
  leaves id k found := by
    simp only [Graph.file, SortedMap.find?_insert] at found
    split at found
    · simp only [Option.some.injEq] at found
      exact found ▸ leaves
    · exact a.leaves id k found
  enters id k found := by
    simp only [Graph.file, SortedMap.find?_insert] at found
    split at found
    · simp only [Option.some.injEq] at found
      exact found ▸ enters
    · exact a.enters id k found

theorem Sound.file (h : g.Sound) {l : Link} (last : LinkId)
    (leaves : ∃ n ∈ g.nodes, n.id = l.origin ∧ l.originSlot < n.outputs.length)
    (enters : ∃ n ∈ g.nodes, n.id = l.target ∧ l.targetSlot < n.inputs.length) :
    (g.file l last).Sound :=
  (h.anchored.file last leaves enters).sound h.distinct

theorem Bounded.file (h : g.Bounded) {l : Link} {last : LinkId} (up : g.lastLink ≤ last)
    (covers : l.id ≤ last) : (g.file l last).Bounded where
  nodes := h.nodes
  links id k found := by
    simp only [Graph.file, SortedMap.find?_insert] at found ⊢
    split at found
    · next same => rwa [same]
    · exact Int.le_trans (h.links id k found) up

theorem lt_of_nextId? {last id : Int} (next : nextId? last = some id) :
    id = last + 1 ∧ last < maxId := by
  unfold nextId? at next
  split at next
  · next room => exact ⟨(Option.some.inj next).symm, room⟩
  · cases next

theorem nextId?_eq_none_iff {last : Int} : nextId? last = none ↔ maxId ≤ last := by
  unfold nextId?
  split
  · next room => simp [Int.not_le.2 room]
  · next spent => simp [Int.not_lt.1 spent]

theorem addNode_eq_none_iff {n : Node} : g.addNode n = none ↔
    (n.id ≤ 0 ∨ g.hasNode n.id = true) ∧ maxId ≤ g.lastNode := by
  have given : g.idFor? n = none ↔ (n.id ≤ 0 ∨ g.hasNode n.id = true) ∧ maxId ≤ g.lastNode := by
    unfold idFor?
    split
    · next counts => rw [nextId?_eq_none_iff, and_iff_right counts]
    · next keeps => simp [keeps]
  rw [← given, addNode]
  cases g.idFor? n <;> simp

/-- An added node goes to the end, under its own id or under the next one. -/
theorem addNode_ok {n : Node} {id : NodeId} (added : g.addNode n = some (g', id)) :
    g' = g.push { n with id := id } (max g.lastNode id) ∧
      (n.id ≤ 0 ∨ g.hasNode n.id = true → id = g.lastNode + 1 ∧ g.lastNode < maxId) ∧
      (¬(n.id ≤ 0 ∨ g.hasNode n.id = true) → id = n.id) := by
  obtain ⟨_, given, eq⟩ := Option.bind_eq_some_iff.1 added
  simp only [pure, Option.some.injEq, Prod.mk.injEq] at eq
  obtain ⟨rfl, rfl⟩ := eq
  refine ⟨rfl, fun counted => ?_, fun kept => ?_⟩
  · rw [idFor?, if_pos counted] at given
    exact lt_of_nextId? given
  · rw [idFor?, if_neg kept] at given
    exact (Option.some.inj given).symm

/-- A counter that covers the ids in use hands out one that no node has. -/
theorem Bounded.addNode_free (b : g.Bounded) (h : g.Sound) {n : Node} {id : NodeId}
    (added : g.addNode n = some (g', id)) : g.hasNode id = false := by
  obtain ⟨_, counted, kept⟩ := addNode_ok added
  by_cases counts : n.id ≤ 0 ∨ g.hasNode n.id = true
  · obtain ⟨rfl, _⟩ := counted counts
    rw [h.hasNode_eq_false_iff]
    intro m hm hid
    exact Int.not_le.2 (Int.lt_succ g.lastNode) (hid ▸ b.nodes m hm)
  · rw [kept counts]
    simpa using (not_or.1 counts).2

theorem Anchored.addNode (a : g.Anchored) {n : Node} {id : NodeId}
    (added : g.addNode n = some (g', id)) : g'.Anchored := by
  rw [(addNode_ok added).1]
  exact a.push _ _

theorem Bounded.addNode (b : g.Bounded) {n : Node} {id : NodeId}
    (added : g.addNode n = some (g', id)) : g'.Bounded := by
  rw [(addNode_ok added).1]
  exact b.push _

theorem erase_thinner (g : Graph) (id : LinkId) :
    Thinner { g with links := g.links.erase id } g := by
  refine ⟨rfl, rfl, fun k l found => ?_, rfl, rfl⟩
  simp only [SortedMap.find?_erase] at found
  split at found
  · cases found
  · exact found

theorem detachLink_thinner (g : Graph) (id : LinkId) : Thinner (g.detachLink id).1 g := by
  unfold detachLink
  split
  · exact .refl g
  · exact (modifyInput_thinner _ _ _ _).trans
      ((modifyOutput_thinner _ _ _ _).trans (erase_thinner g id))

theorem detachLink_find? (g : Graph) (id k : LinkId) :
    (g.detachLink id).1.links.find? k = if k = id then none else g.links.find? k := by
  unfold detachLink
  split
  · next absent =>
    split
    · next same => rwa [same]
    · rfl
  · simp [modifyInput, modifyOutput, SortedMap.find?_erase]

theorem detachAll_thinner (g : Graph) (ids : List LinkId) :
    Thinner (ids.foldl (fun g id => (g.detachLink id).1) g) g := by
  induction ids generalizing g with
  | nil => exact .refl g
  | cons id ids ih => exact (ih _).trans (detachLink_thinner g id)

theorem detachAll_find? (g : Graph) (ids : List LinkId) (k : LinkId) :
    (ids.foldl (fun g id => (g.detachLink id).1) g).links.find? k =
      if k ∈ ids then none else g.links.find? k := by
  induction ids generalizing g with
  | nil => simp
  | cons id ids ih =>
    rw [List.foldl_cons, ih, detachLink_find?]
    by_cases mem : k ∈ ids
    · simp [mem]
    · simp [mem]

theorem disconnectInput_thinner (g : Graph) (target : NodeId) (slot : Nat) :
    Thinner (g.disconnectInput target slot).1 g := by
  unfold disconnectInput
  split
  · exact .refl g
  · exact detachLink_thinner g _

def drop (g : Graph) (i : Nat) : Graph :=
  { g with nodes := g.nodes.eraseIdx i, index := indexOf (g.nodes.eraseIdx i) }

theorem Anchored.drop (a : g.Anchored) {id : NodeId} {i : Nat}
    (at_ : g.index.find? id = some i)
    (loose : ∀ k l, g.links.find? k = some l → l.origin ≠ id ∧ l.target ≠ id) :
    (g.drop i).Anchored := by
  -- The other nodes may move up a place, but links name their ends by id.
  have stays : ∀ n ∈ g.nodes, n.id ≠ id → n ∈ g.nodes.eraseIdx i := by
    intro n hn other
    obtain ⟨j, hj⟩ := List.mem_iff_getElem?.1 hn
    rw [List.mem_eraseIdx_iff_getElem?]
    refine ⟨j, ?_, hj⟩
    rintro rfl
    have here := a.placed id j at_
    rw [hj, Option.map_some, Option.some.injEq] at here
    exact other here
  constructor
  case placed => exact fun k j found => placed_indexOf found
  case listed => exact fun n hn => listed_indexOf hn
  case keyed => exact a.keyed
  case leaves =>
    intro k l found
    obtain ⟨n, hn, hid, hslot⟩ := a.leaves k l found
    exact ⟨n, stays n hn (hid ▸ (loose k l found).1), hid, hslot⟩
  case enters =>
    intro k l found
    obtain ⟨n, hn, hid, hslot⟩ := a.enters k l found
    exact ⟨n, stays n hn (hid ▸ (loose k l found).2), hid, hslot⟩

theorem Sound.drop (h : g.Sound) {id : NodeId} {i : Nat} (at_ : g.index.find? id = some i)
    (loose : ∀ k l, g.links.find? k = some l → l.origin ≠ id ∧ l.target ≠ id) :
    (g.drop i).Sound := by
  apply (h.anchored.drop at_ loose).sound
  exact h.distinct.sublist ((List.eraseIdx_sublist g.nodes i).map _)

theorem Bounded.drop (h : g.Bounded) (i : Nat) : (g.drop i).Bounded where
  nodes n hn := h.nodes n (List.mem_of_mem_eraseIdx hn)
  links := h.links

def isolate (g : Graph) (id : NodeId) : Graph :=
  (g.linksAt id).foldl (fun g l => (g.detachLink l).1) g

theorem isolate_thinner (g : Graph) (id : NodeId) : Thinner (g.isolate id) g :=
  detachAll_thinner g _

theorem Anchored.isolate_loose (a : g.Anchored) {id : NodeId} {k : LinkId} {l : Link}
    (found : (g.isolate id).links.find? k = some l) : l.origin ≠ id ∧ l.target ≠ id := by
  rw [isolate, detachAll_find?] at found
  split at found
  · cases found
  · next away =>
    have listed : l.origin = id ∨ l.target = id → k ∈ g.linksAt id := by
      intro touches
      have mem : l ∈ g.links.values := SortedMap.mem_values_iff.2 ⟨k, found⟩
      simp only [linksAt, List.mem_map, List.mem_filter, decide_eq_true_eq]
      exact ⟨l, ⟨mem, touches⟩, a.keyed k l found⟩
    exact ⟨fun start => away (listed (.inl start)), fun finish => away (listed (.inr finish))⟩

theorem removeNode_of_absent {id : NodeId} (at_ : g.index.find? id = none) :
    g.removeNode id = (g, none) := by
  unfold removeNode
  rw [at_]

theorem removeNode_eq_drop {id : NodeId} {i : Nat} (at_ : g.index.find? id = some i) :
    g.removeNode id = ((g.isolate id).drop i, (g.isolate id).nodes[i]?) := by
  unfold removeNode
  rw [at_]
  rfl

theorem Anchored.removeNode (a : g.Anchored) (id : NodeId) : (g.removeNode id).1.Anchored := by
  cases at_ : g.index.find? id with
  | none => rwa [removeNode_of_absent at_]
  | some i =>
    rw [removeNode_eq_drop at_]
    have thin := isolate_thinner g id
    exact (a.thinner thin).drop (by rwa [thin.index]) fun k l found => a.isolate_loose found

theorem removeNode_sublist (g : Graph) (id : NodeId) :
    ((g.removeNode id).1.nodes.map (·.id)).Sublist (g.nodes.map (·.id)) := by
  cases at_ : g.index.find? id with
  | none => simp [removeNode_of_absent at_]
  | some i =>
    rw [removeNode_eq_drop at_, ← (isolate_thinner g id).ids]
    exact (List.eraseIdx_sublist _ i).map _

theorem Sound.removeNode (h : g.Sound) (id : NodeId) : (g.removeNode id).1.Sound :=
  (h.anchored.removeNode id).sound (h.distinct.sublist (removeNode_sublist g id))

theorem Bounded.removeNode (b : g.Bounded) (id : NodeId) : (g.removeNode id).1.Bounded := by
  cases at_ : g.index.find? id with
  | none => rwa [removeNode_of_absent at_]
  | some i =>
    rw [removeNode_eq_drop at_]
    exact (b.thinner (isolate_thinner g id)).drop i

/-- A graph with one more link in its table and in the slots at its ends. -/
def join (g : Graph) (l : Link) : Graph :=
  ((g.file l l.id).modifyOutput l.origin l.originSlot (.add l.id)).modifyInput l.target
    l.targetSlot (.fill l.id)

theorem join_thinner (g : Graph) (l : Link) : Thinner (g.join l) (g.file l l.id) :=
  (modifyInput_thinner _ _ _ _).trans (modifyOutput_thinner _ _ _ _)

theorem linkType_eq_ok_iff {origin target : NodeId} {originSlot targetSlot : Nat}
    {type : Json.Value} :
    g.linkType origin originSlot target targetSlot = .ok type ↔
      ∃ o out t, g.node? origin = some o ∧ o.outputs[originSlot]? = some out ∧
        g.node? target = some t ∧ targetSlot < t.inputs.length ∧ out.type = type := by
  unfold linkType
  cases g.node? origin with
  | none => simp [throw, throwThe, MonadExceptOf.throw]
  | some o =>
    cases at_ : o.outputs[originSlot]? with
    | none => simp [at_, throw, throwThe, MonadExceptOf.throw]
    | some out =>
      cases g.node? target with
      | none => simp [at_, throw, throwThe, MonadExceptOf.throw]
      | some t =>
        rcases Nat.lt_or_ge targetSlot t.inputs.length with fits | short
        · simp [at_, Nat.not_le.2 fits, fits, pure, Except.pure]
        · simp [at_, short, Nat.not_lt.2 short, bind, Except.bind, throw, throwThe,
            MonadExceptOf.throw]

theorem connect_ok {origin target : NodeId} {originSlot targetSlot : Nat} {id : LinkId}
    (ok : g.connect origin originSlot target targetSlot = some (.ok (g', id))) :
    ∃ type, g.linkType origin originSlot target targetSlot = .ok type ∧ id = g.lastLink + 1 ∧
      g.lastLink < maxId ∧ g' = (g.disconnectInput target targetSlot).1.join
        ⟨id, origin, originSlot, target, targetSlot, type⟩ := by
  unfold connect at ok
  split at ok
  · cases ok
  · next type typed =>
    obtain ⟨_, next, eq⟩ := Option.bind_eq_some_iff.1 ok
    simp only [pure, Option.some.injEq, Except.ok.injEq, Prod.mk.injEq] at eq
    obtain ⟨rfl, rfl⟩ := eq
    rw [(disconnectInput_thinner g target targetSlot).lastLink] at next
    obtain ⟨counted, room⟩ := lt_of_nextId? next
    exact ⟨type, typed, counted, room, rfl⟩

theorem connect_of_linkType_error {origin target : NodeId} {originSlot targetSlot : Nat}
    {e : GraphError} (refused : g.linkType origin originSlot target targetSlot = .error e) :
    g.connect origin originSlot target targetSlot = some (.error e) := by
  rw [connect, refused]

/-- Slots that exist are connected unless there is no id for the link. -/
theorem connect_of_linkType_ok {origin target : NodeId} {originSlot targetSlot : Nat}
    {type : Json.Value} (typed : g.linkType origin originSlot target targetSlot = .ok type) :
    (maxId ≤ g.lastLink ∧ g.connect origin originSlot target targetSlot = none) ∨
      g.lastLink < maxId ∧ ∃ g', g.connect origin originSlot target targetSlot =
        some (.ok (g', g.lastLink + 1)) := by
  have same := (disconnectInput_thinner g target targetSlot).lastLink
  simp only [connect, typed, same, nextId?]
  split
  · next room => exact .inr ⟨room, _, rfl⟩
  · next spent => exact .inl ⟨Int.not_lt.1 spent, rfl⟩

theorem Anchored.file_of_connect (a : g.Anchored) {origin target : NodeId}
    {originSlot targetSlot : Nat} {id : LinkId}
    (ok : g.connect origin originSlot target targetSlot = some (.ok (g', id))) :
    ∃ l, l.id = id ∧ l.target = target ∧ l.targetSlot = targetSlot ∧
      ((g.disconnectInput target targetSlot).1.file l l.id).Anchored ∧
      g' = (g.disconnectInput target targetSlot).1.join l := by
  obtain ⟨type, typed, _, _, rfl⟩ := connect_ok ok
  obtain ⟨o, out, t, ho, hout, ht, hts, _⟩ := linkType_eq_ok_iff.1 typed
  refine ⟨_, rfl, rfl, rfl, ?_, rfl⟩
  have thin := disconnectInput_thinner g target targetSlot
  obtain ⟨mem, hid⟩ := a.mem_of_node? ho
  obtain ⟨mem', hid'⟩ := a.mem_of_node? ht
  obtain ⟨n, hn, same⟩ := thin.mem mem
  obtain ⟨n', hn', same'⟩ := thin.mem mem'
  simp only [Node.ports, Prod.mk.injEq] at same same'
  have fits : originSlot < o.outputs.length := (List.getElem?_eq_some_iff.1 hout).1
  apply (a.thinner thin).file
  · exact ⟨n, hn, same.1.trans hid, by simpa [same.2.2] using fits⟩
  · exact ⟨n', hn', same'.1.trans hid', by simpa [same'.2.1] using hts⟩

theorem Anchored.connect (a : g.Anchored) {origin target : NodeId} {originSlot targetSlot : Nat}
    {id : LinkId} (ok : g.connect origin originSlot target targetSlot = some (.ok (g', id))) :
    g'.Anchored := by
  obtain ⟨l, _, _, _, filed, rfl⟩ := a.file_of_connect ok
  exact filed.thinner (join_thinner _ _)

theorem Sound.file_of_connect (h : g.Sound) {origin target : NodeId}
    {originSlot targetSlot : Nat} {id : LinkId}
    (ok : g.connect origin originSlot target targetSlot = some (.ok (g', id))) :
    ∃ l, l.id = id ∧ l.target = target ∧ l.targetSlot = targetSlot ∧
      ((g.disconnectInput target targetSlot).1.file l l.id).Sound ∧
      g' = (g.disconnectInput target targetSlot).1.join l := by
  obtain ⟨l, hid, dest, slot, filed, eq⟩ := h.anchored.file_of_connect ok
  refine ⟨l, hid, dest, slot, filed.sound ?_, eq⟩
  exact (h.thinner (disconnectInput_thinner g target targetSlot)).distinct

theorem Sound.connect (h : g.Sound) {origin target : NodeId} {originSlot targetSlot : Nat}
    {id : LinkId} (ok : g.connect origin originSlot target targetSlot = some (.ok (g', id))) :
    g'.Sound := by
  obtain ⟨l, _, _, _, filed, rfl⟩ := h.file_of_connect ok
  exact filed.thinner (join_thinner _ _)

theorem Bounded.connect_free (b : g.Bounded) {origin target : NodeId} {originSlot targetSlot : Nat}
    {id : LinkId} (ok : g.connect origin originSlot target targetSlot = some (.ok (g', id))) :
    (g.disconnectInput target targetSlot).1.link? id = none := by
  obtain ⟨_, _, rfl, _⟩ := connect_ok ok
  rw [link?, Option.eq_none_iff_forall_ne_some]
  intro l found
  have stored := (disconnectInput_thinner g target targetSlot).links _ l found
  exact Int.not_le.2 (Int.lt_succ g.lastLink) (b.links _ l stored)

theorem Bounded.connect (b : g.Bounded) {origin target : NodeId} {originSlot targetSlot : Nat}
    {id : LinkId} (ok : g.connect origin originSlot target targetSlot = some (.ok (g', id))) :
    g'.Bounded := by
  obtain ⟨type, _, rfl, _, rfl⟩ := connect_ok ok
  have thin := disconnectInput_thinner g target targetSlot
  apply Bounded.thinner ?_ (join_thinner _ _)
  apply (b.thinner thin).file
  · rw [thin.lastLink]
    exact Int.le_of_lt (Int.lt_succ _)
  · exact Int.le_refl _

end Edits

end Graph

end Flowgraph
