import Flowgraph.Proofs.Graph.Configure
import Flowgraph.Proofs.Graph.Slots

namespace Flowgraph

/-- The links that the slots of a node record. -/
structure Wiring where
  node : NodeId
  into : Nat → Option LinkId
  outOf : Nat → List LinkId

def Node.wiring (n : Node) : Wiring where
  node := n.id
  into slot := n.inputs[slot]?.bind (·.link)
  outOf slot := (n.outputs[slot]?.map (·.links)).getD []

def NodeRecord.wiring (n : NodeRecord) : Wiring where
  node := n.id
  into slot := n.inputs[slot]?.bind (·.link)
  outOf slot := (n.outputs[slot]?.map (·.links)).getD []

/-- Every link is recorded in the input slot where it ends, once in the output slot where it starts
and nowhere else, and only links are recorded, each at its ends. -/
structure Mirrors (nodes : List Wiring) (links : List Link) : Prop where
  fed : ∀ l ∈ links, ∃ w ∈ nodes, w.node = l.target ∧ w.into l.targetSlot = some l.id
  listed : ∀ l ∈ links, ∃ w ∈ nodes, w.node = l.origin ∧ (w.outOf l.originSlot).count l.id = 1
  fed_only : ∀ l ∈ links, ∀ w ∈ nodes, ∀ slot, w.into slot = some l.id →
    w.node = l.target ∧ slot = l.targetSlot
  listed_only : ∀ l ∈ links, ∀ w ∈ nodes, ∀ slot, l.id ∈ w.outOf slot →
    w.node = l.origin ∧ slot = l.originSlot
  of_fed : ∀ w ∈ nodes, ∀ slot id, w.into slot = some id →
    ∃ l ∈ links, l.id = id ∧ l.target = w.node ∧ l.targetSlot = slot
  of_listed : ∀ w ∈ nodes, ∀ slot, ∀ id ∈ w.outOf slot,
    ∃ l ∈ links, l.id = id ∧ l.origin = w.node ∧ l.originSlot = slot

def Graph.Mirrored (g : Graph) : Prop := Mirrors (g.nodes.map Node.wiring) g.links.values

def Snapshot.Mirrored (s : Snapshot) : Prop := Mirrors (s.nodes.map NodeRecord.wiring) s.links

theorem Mirrors.congr_links {nodes : List Wiring} {links links' : List Link}
    (h : Mirrors nodes links) (same : ∀ l, l ∈ links' ↔ l ∈ links) : Mirrors nodes links' where
  fed l hl := h.fed l ((same l).1 hl)
  listed l hl := h.listed l ((same l).1 hl)
  fed_only l hl := h.fed_only l ((same l).1 hl)
  listed_only l hl := h.listed_only l ((same l).1 hl)
  of_fed w hw slot id recorded := by
    obtain ⟨l, hl, rest⟩ := h.of_fed w hw slot id recorded
    exact ⟨l, (same l).2 hl, rest⟩
  of_listed w hw slot id recorded := by
    obtain ⟨l, hl, rest⟩ := h.of_listed w hw slot id recorded
    exact ⟨l, (same l).2 hl, rest⟩

namespace Graph

variable {g g' : Graph}

/-- What each slot records is what the table says. -/
structure Agrees (g : Graph) : Prop where
  into_iff : ∀ id slot k, g.into id slot = some k ↔
    ∃ l, g.links.find? k = some l ∧ l.target = id ∧ l.targetSlot = slot
  mem_outOf_iff : ∀ id slot k, k ∈ g.outOf id slot ↔
    ∃ l, g.links.find? k = some l ∧ l.origin = id ∧ l.originSlot = slot
  nodup_outOf : ∀ id slot, (g.outOf id slot).Nodup

theorem into_eq_wiring {id : NodeId} {n : Node} (found : g.node? id = some n) (slot : Nat) :
    g.into id slot = n.wiring.into slot := by
  simp [into, input, found, Node.wiring]

theorem outOf_eq_wiring {id : NodeId} {n : Node} (found : g.node? id = some n) (slot : Nat) :
    g.outOf id slot = n.wiring.outOf slot := by
  simp [outOf, output, found, Node.wiring]

theorem exists_node_of_into {id : NodeId} {slot : Nat} {k : LinkId}
    (recorded : g.into id slot = some k) : ∃ n, g.node? id = some n := by
  cases found : g.node? id with
  | none => simp [into, input, found] at recorded
  | some n => exact ⟨n, rfl⟩

theorem exists_node_of_mem_outOf {id : NodeId} {slot : Nat} {k : LinkId}
    (recorded : k ∈ g.outOf id slot) : ∃ n, g.node? id = some n := by
  cases found : g.node? id with
  | none => simp [outOf, output, found] at recorded
  | some n => exact ⟨n, rfl⟩

theorem Sound.mem_values_iff (h : g.Sound) {l : Link} :
    l ∈ g.links.values ↔ g.links.find? l.id = some l := by
  rw [SortedMap.mem_values_iff]
  constructor
  · rintro ⟨k, found⟩
    rwa [h.keyed k l found]
  · intro found
    exact ⟨_, found⟩

theorem Sound.node?_of_mem (h : g.Sound) {w : Wiring} (hw : w ∈ g.nodes.map Node.wiring) :
    ∃ n, w = n.wiring ∧ g.node? w.node = some n := by
  obtain ⟨n, hn, rfl⟩ := List.mem_map.1 hw
  exact ⟨n, rfl, h.node?_eq_some_iff.2 ⟨hn, rfl⟩⟩

theorem Sound.wiring_mem (h : g.Sound) {id : NodeId} {n : Node} (found : g.node? id = some n) :
    n.wiring ∈ g.nodes.map Node.wiring ∧ n.wiring.node = id := by
  obtain ⟨hn, hid⟩ := h.node?_eq_some_iff.1 found
  exact ⟨List.mem_map_of_mem hn, hid⟩

theorem Sound.into_iff (h : g.Sound)
    (fed : ∀ l ∈ g.links.values, ∃ w ∈ g.nodes.map Node.wiring,
      w.node = l.target ∧ w.into l.targetSlot = some l.id)
    (of_fed : ∀ w ∈ g.nodes.map Node.wiring, ∀ slot id, w.into slot = some id →
      ∃ l ∈ g.links.values, l.id = id ∧ l.target = w.node ∧ l.targetSlot = slot)
    (id : NodeId) (slot : Nat) (k : LinkId) : g.into id slot = some k ↔
      ∃ l, g.links.find? k = some l ∧ l.target = id ∧ l.targetSlot = slot := by
  constructor
  · intro recorded
    obtain ⟨n, found⟩ := exists_node_of_into recorded
    obtain ⟨mem, hid⟩ := h.wiring_mem found
    rw [into_eq_wiring found] at recorded
    obtain ⟨l, hl, rfl, target, hslot⟩ := of_fed _ mem slot k recorded
    exact ⟨l, h.mem_values_iff.1 hl, target.trans hid, hslot⟩
  · rintro ⟨l, found, rfl, rfl⟩
    have hk := h.keyed k l found
    subst hk
    obtain ⟨w, hw, hid, recorded⟩ := fed l (h.mem_values_iff.2 found)
    obtain ⟨n, rfl, at_⟩ := h.node?_of_mem hw
    rw [← hid, into_eq_wiring at_, recorded]

theorem Mirrored.agrees (m : g.Mirrored) (h : g.Sound) : g.Agrees where
  into_iff := h.into_iff m.fed m.of_fed
  mem_outOf_iff id slot k := by
    constructor
    · intro recorded
      obtain ⟨n, found⟩ := exists_node_of_mem_outOf recorded
      obtain ⟨mem, hid⟩ := h.wiring_mem found
      rw [outOf_eq_wiring found] at recorded
      obtain ⟨l, hl, rfl, origin, hslot⟩ := m.of_listed _ mem slot k recorded
      exact ⟨l, h.mem_values_iff.1 hl, origin.trans hid, hslot⟩
    · rintro ⟨l, found, rfl, rfl⟩
      have hk := h.keyed k l found
      subst hk
      obtain ⟨w, hw, hid, once⟩ := m.listed l (h.mem_values_iff.2 found)
      obtain ⟨n, rfl, at_⟩ := h.node?_of_mem hw
      rw [← hid, outOf_eq_wiring at_]
      exact List.count_pos_iff.1 (by omega)
  nodup_outOf id slot := by
    rw [List.nodup_iff_count]
    intro k
    cases found : g.node? id with
    | none => simp [outOf, output, found]
    | some n =>
      obtain ⟨mem, hid⟩ := h.wiring_mem found
      rw [outOf_eq_wiring found]
      by_cases listed : k ∈ n.wiring.outOf slot
      · obtain ⟨l, hl, rfl, origin, rfl⟩ := m.of_listed _ mem slot k listed
        obtain ⟨w, hw, hid', once⟩ := m.listed l hl
        obtain ⟨n', rfl, at_⟩ := h.node?_of_mem hw
        rw [hid', origin, hid, found, Option.some.injEq] at at_
        subst at_
        exact Nat.le_of_eq once
      · rw [List.count_eq_zero_of_not_mem listed]
        exact Nat.zero_le 1

theorem Agrees.mirrored (a : g.Agrees) (h : g.Sound) : g.Mirrored where
  fed l hl := by
    have recorded := (a.into_iff _ _ _).2 ⟨l, h.mem_values_iff.1 hl, rfl, rfl⟩
    obtain ⟨n, found⟩ := exists_node_of_into recorded
    obtain ⟨mem, hid⟩ := h.wiring_mem found
    exact ⟨_, mem, hid, by rwa [into_eq_wiring found] at recorded⟩
  listed l hl := by
    have recorded := (a.mem_outOf_iff _ _ _).2 ⟨l, h.mem_values_iff.1 hl, rfl, rfl⟩
    obtain ⟨n, found⟩ := exists_node_of_mem_outOf recorded
    obtain ⟨mem, hid⟩ := h.wiring_mem found
    have nodup := a.nodup_outOf l.origin l.originSlot
    rw [outOf_eq_wiring found] at recorded nodup
    exact ⟨_, mem, hid, by rw [nodup.count, if_pos recorded]⟩
  fed_only l hl w hw slot recorded := by
    obtain ⟨n, rfl, found⟩ := h.node?_of_mem hw
    rw [← into_eq_wiring found, a.into_iff, h.mem_values_iff.1 hl] at recorded
    obtain ⟨l', eq, target, hslot⟩ := recorded
    cases eq
    exact ⟨target.symm, hslot.symm⟩
  listed_only l hl w hw slot recorded := by
    obtain ⟨n, rfl, found⟩ := h.node?_of_mem hw
    rw [← outOf_eq_wiring found, a.mem_outOf_iff, h.mem_values_iff.1 hl] at recorded
    obtain ⟨l', eq, origin, hslot⟩ := recorded
    cases eq
    exact ⟨origin.symm, hslot.symm⟩
  of_fed w hw slot id recorded := by
    obtain ⟨n, rfl, found⟩ := h.node?_of_mem hw
    rw [← into_eq_wiring found, a.into_iff] at recorded
    obtain ⟨l, at_, target, hslot⟩ := recorded
    have hid := h.keyed id l at_
    subst hid
    exact ⟨l, h.mem_values_iff.2 at_, rfl, target, hslot⟩
  of_listed w hw slot id recorded := by
    obtain ⟨n, rfl, found⟩ := h.node?_of_mem hw
    rw [← outOf_eq_wiring found, a.mem_outOf_iff] at recorded
    obtain ⟨l, at_, origin, hslot⟩ := recorded
    have hid := h.keyed id l at_
    subst hid
    exact ⟨l, h.mem_values_iff.2 at_, rfl, origin, hslot⟩

end Graph

end Flowgraph
