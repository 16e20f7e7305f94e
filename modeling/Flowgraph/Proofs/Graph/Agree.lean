import Flowgraph.Proofs.Graph.Feed

namespace Flowgraph

theorem Node.Bare.outOf {n : Node} (h : n.Bare) (slot : Nat) : n.wiring.outOf slot = [] := by
  cases at_ : n.outputs[slot]? with
  | none => simp [Node.wiring, at_]
  | some s => simp [Node.wiring, at_, h.outputs s (List.mem_of_getElem? at_)]

namespace Graph

variable {g g' : Graph}

theorem Agrees.fed (a : g.Agrees) (h : g.Sound) : g.Fed := ⟨h, a.into_iff⟩

/-- Some links go, from the table and from the slots at once. -/
theorem Agrees.restrict (a : g.Agrees) (keep : LinkId → Prop)
    (into : ∀ id slot k, g'.into id slot = some k ↔ keep k ∧ g.into id slot = some k)
    (outOf : ∀ id slot k, k ∈ g'.outOf id slot ↔ keep k ∧ k ∈ g.outOf id slot)
    (sub : ∀ id slot, (g'.outOf id slot).Sublist (g.outOf id slot))
    (links : ∀ k l, g'.links.find? k = some l ↔ keep k ∧ g.links.find? k = some l) :
    g'.Agrees where
  into_iff id slot k := by
    simp only [into, a.into_iff, links]
    constructor
    · rintro ⟨kept, l, found, ends⟩
      exact ⟨l, ⟨kept, found⟩, ends⟩
    · rintro ⟨l, ⟨kept, found⟩, ends⟩
      exact ⟨kept, l, found, ends⟩
  mem_outOf_iff id slot k := by
    simp only [outOf, a.mem_outOf_iff, links]
    constructor
    · rintro ⟨kept, l, found, ends⟩
      exact ⟨l, ⟨kept, found⟩, ends⟩
    · rintro ⟨l, ⟨kept, found⟩, ends⟩
      exact ⟨kept, l, found, ends⟩
  nodup_outOf id slot := (a.nodup_outOf id slot).sublist (sub id slot)

theorem Agrees.congr (a : g.Agrees) (into : g'.into = g.into) (outOf : g'.outOf = g.outOf)
    (links : g'.links = g.links) : g'.Agrees where
  into_iff := by
    rw [into, links]
    exact a.into_iff
  mem_outOf_iff := by
    rw [outOf, links]
    exact a.mem_outOf_iff
  nodup_outOf := by
    rw [outOf]
    exact a.nodup_outOf

theorem Agrees.empty : Graph.empty.Agrees where
  into_iff id slot k := by simp [into, input, node?, Graph.empty]
  mem_outOf_iff id slot k := by simp [outOf, output, node?, Graph.empty]
  nodup_outOf id slot := by simp [outOf, output, node?, Graph.empty]

theorem Agrees.modifyNode (a : g.Agrees) (h : g.Sound) (id : NodeId) {f : Node → Node}
    (keeps : Node.KeepsSlots f) : (g.modifyNode id f).Agrees := by
  apply a.congr
  · funext k slot
    rw [into, into, h.input_modifyNode fun n => (keeps n).2.1]
  · funext k slot
    rw [outOf, outOf, h.output_modifyNode fun n => (keeps n).2.2]
  · exact modifyNode_links g id f

theorem Agrees.detachLink (a : g.Agrees) (h : g.Sound) (link : LinkId) :
    (g.detachLink link).1.Agrees := by
  cases found : g.link? link with
  | none =>
    unfold Graph.detachLink
    rwa [found]
  | some l =>
    apply a.restrict (· ≠ link)
    · exact (a.fed h).into_detachLink_iff found
    -- Only the slot where the link starts is filtered: by agreement no other one records it.
    · intro id slot k
      rw [h.outOf_detachLink found]
      split
      · rw [List.mem_filter, and_comm, bne_iff_ne]
      · next away =>
        refine ⟨fun recorded => ⟨?_, recorded⟩, And.right⟩
        rintro rfl
        obtain ⟨l', found', rfl, rfl⟩ := (a.mem_outOf_iff id slot k).1 recorded
        cases found.symm.trans found'
        exact away ⟨rfl, rfl⟩
    · intro id slot
      rw [h.outOf_detachLink found]
      split
      · exact List.filter_sublist
      · exact List.Sublist.refl _
    · intro k l'
      rw [detachLink_find?]
      by_cases same : k = link <;> simp [same]

theorem Agrees.detachAll (a : g.Agrees) (h : g.Sound) (links : List LinkId) :
    (links.foldl (fun g link => (g.detachLink link).1) g).Agrees := by
  induction links generalizing g with
  | nil => exact a
  | cons link links ih => exact ih (a.detachLink h link) (h.thinner (detachLink_thinner g link))

theorem Agrees.disconnectInput (a : g.Agrees) (h : g.Sound) (id : NodeId) (slot : Nat) :
    (g.disconnectInput id slot).1.Agrees := by
  rw [disconnectInput_eq]
  split
  · exact a
  · exact a.detachLink h _

theorem Agrees.join (a : g.Agrees) {l : Link} (h : (g.file l l.id).Sound)
    (unfed : g.into l.target l.targetSlot = none) (free : g.links.find? l.id = none) :
    (g.join l).Agrees where
  into_iff id slot k := by
    rw [into_join_iff h unfed, exists_join_iff free, ← a.into_iff]
  mem_outOf_iff id slot k := by
    rw [h.outOf_join, exists_join_iff free, ← a.mem_outOf_iff]
    by_cases here : id = l.origin ∧ slot = l.originSlot
    · obtain ⟨rfl, rfl⟩ := here
      simp [or_comm]
    · have elsewhere : ¬(l.origin = id ∧ l.originSlot = slot) :=
        fun there => here ⟨there.1.symm, there.2.symm⟩
      simp [here, elsewhere]
  nodup_outOf id slot := by
    rw [h.outOf_join]
    have nodup := a.nodup_outOf id slot
    split
    · have unlisted : l.id ∉ g.outOf id slot := by
        rw [a.mem_outOf_iff, free]
        rintro ⟨l', ⟨⟩, _⟩
      rw [List.nodup_append]
      refine ⟨nodup, by simp, fun k hk k' hk' same => unlisted ?_⟩
      rw [List.mem_singleton] at hk'
      rwa [← hk', ← same]
    · exact nodup

theorem outOf_eq_nil_of_bare {id : NodeId} (bare : ∀ n, g.node? id = some n → n.Bare)
    (slot : Nat) : g.outOf id slot = [] := by
  cases found : g.node? id with
  | none => simp [outOf, output, found]
  | some n =>
    rw [outOf_eq_wiring found]
    exact (bare n found).outOf slot

theorem Agrees.congr_nodes (a : g.Agrees) (links : g'.links = g.links)
    (same : ∀ id, g'.node? id = g.node? id ∨
      (∀ n, g'.node? id = some n → n.Bare) ∧ ∀ n, g.node? id = some n → n.Bare) :
    g'.Agrees := by
  apply a.congr
  · funext id slot
    rcases same id with eq | ⟨bare', bare⟩
    · rw [into, into, input, input, eq]
    · rw [into_eq_none_of_bare bare', into_eq_none_of_bare bare]
  · funext id slot
    rcases same id with eq | ⟨bare', bare⟩
    · rw [outOf, outOf, output, output, eq]
    · rw [outOf_eq_nil_of_bare bare', outOf_eq_nil_of_bare bare]
  · exact links

theorem Agrees.push (a : g.Agrees) (h : g.Sound) {n : Node} (bare : n.Bare)
    (free : g.hasNode n.id = false) (last : NodeId) : (g.push n last).Agrees := by
  refine a.congr_nodes rfl fun id => ?_
  rw [h.node?_push free]
  by_cases new : id = n.id
  · right
    constructor
    · intro m found
      rw [if_pos new, Option.some.injEq] at found
      rwa [← found]
    · intro m found
      obtain ⟨hm, hid⟩ := h.node?_eq_some_iff.1 found
      exact absurd (hid.trans new) (h.hasNode_eq_false_iff.1 free m hm)
  · exact .inl (if_neg new)

theorem Agrees.bare (a : g.Agrees) {id : NodeId} {n : Node} (found : g.node? id = some n)
    (loose : ∀ k l, g.links.find? k = some l → l.origin ≠ id ∧ l.target ≠ id) : n.Bare where
  inputs s hs := by
    obtain ⟨slot, at_⟩ := List.mem_iff_getElem?.1 hs
    rw [Option.eq_none_iff_forall_ne_some]
    intro k recorded
    have into : g.into id slot = some k := by simp [into, input, found, at_, recorded]
    obtain ⟨l, listed, target, _⟩ := (a.into_iff id slot k).1 into
    exact (loose k l listed).2 target
  outputs s hs := by
    obtain ⟨slot, at_⟩ := List.mem_iff_getElem?.1 hs
    rw [List.eq_nil_iff_forall_not_mem]
    intro k recorded
    have outOf : k ∈ g.outOf id slot := by simpa [outOf, output, found, at_] using recorded
    obtain ⟨l, listed, origin, _⟩ := (a.mem_outOf_iff id slot k).1 outOf
    exact (loose k l listed).1 origin

theorem Agrees.drop (a : g.Agrees) (h : g.Sound) {id : NodeId} {i : Nat}
    (at_ : g.index.find? id = some i)
    (loose : ∀ k l, g.links.find? k = some l → l.origin ≠ id ∧ l.target ≠ id) :
    (g.drop i).Agrees := by
  refine a.congr_nodes rfl fun k => ?_
  rw [h.node?_drop (h.drop at_ loose) at_]
  by_cases gone : k = id
  · right
    constructor
    · intro n found
      rw [if_pos gone] at found
      cases found
    · intro n found
      rw [gone] at found
      exact a.bare found loose
  · exact .inl (if_neg gone)

end Graph

end Flowgraph
