import Flowgraph.Proofs.Extension.Described
import Flowgraph.Proofs.Graph.WellFormed
import Flowgraph.Proofs.Graph.Wiring

namespace Flowgraph

theorem Node.Bare.into {n : Node} (h : n.Bare) (slot : Nat) : n.wiring.into slot = none := by
  rw [Node.wiring, Option.bind_eq_none_iff]
  intro s at_
  exact h.inputs s (List.mem_of_getElem? at_)

def Operation.AddsBare : Operation → Prop
  | .addNode n => n.Bare
  | _ => True

namespace Graph

variable {g g' : Graph} {op : Operation}

/-- A sound graph whose input slots record just the links that end there. -/
structure Fed (g : Graph) : Prop extends Sound g where
  into_iff : ∀ id slot k, g.into id slot = some k ↔
    ∃ l, g.links.find? k = some l ∧ l.target = id ∧ l.targetSlot = slot

theorem Fed.congr (f : g.Fed) (h : g'.Sound) (into : g'.into = g.into)
    (links : g'.links = g.links) : g'.Fed := by
  refine ⟨h, ?_⟩
  rw [into, links]
  exact f.into_iff

theorem Fed.link_unique (f : g.Fed) {k k' : LinkId} {l l' : Link} (found : g.link? k = some l)
    (found' : g.link? k' = some l') (target : l.target = l'.target)
    (slot : l.targetSlot = l'.targetSlot) : k = k' := by
  have recorded := (f.into_iff _ _ _).2 ⟨l, found, target, slot⟩
  have recorded' := (f.into_iff _ _ _).2 ⟨l', found', rfl, rfl⟩
  exact Option.some.inj (recorded.symm.trans recorded')

theorem Fed.inputLink?_eq_some_iff (f : g.Fed) {id : NodeId} {slot : Nat} {l : Link} :
    g.inputLink? id slot = some l ↔
      g.link? l.id = some l ∧ l.target = id ∧ l.targetSlot = slot := by
  rw [inputLink?_eq_bind_into, Option.bind_eq_some_iff]
  constructor
  · rintro ⟨k, recorded, stored⟩
    obtain ⟨l', stored', ends⟩ := (f.into_iff id slot k).1 recorded
    cases stored.symm.trans stored'
    rw [f.keyed k l stored]
    exact ⟨stored, ends⟩
  · rintro ⟨stored, ends⟩
    exact ⟨l.id, (f.into_iff id slot l.id).2 ⟨l, stored, ends⟩, stored⟩

section Detach

/-- No slot but the one that a link feeds records it, so no other has to be emptied. -/
theorem Fed.into_detachLink_iff (f : g.Fed) {link : LinkId} {l : Link}
    (found : g.link? link = some l) (id : NodeId) (slot : Nat) (k : LinkId) :
    (g.detachLink link).1.into id slot = some k ↔ k ≠ link ∧ g.into id slot = some k := by
  rw [f.into_detachLink found]
  split
  · rw [Option.filter_eq_some_iff, and_comm, bne_iff_ne]
  · next away =>
    refine ⟨fun recorded => ⟨?_, recorded⟩, And.right⟩
    rintro rfl
    obtain ⟨l', found', rfl, rfl⟩ := (f.into_iff id slot k).1 recorded
    cases found.symm.trans found'
    exact away ⟨rfl, rfl⟩

theorem Fed.detachLink (f : g.Fed) (link : LinkId) : (g.detachLink link).1.Fed := by
  refine ⟨f.toSound.thinner (detachLink_thinner g link), fun id slot k => ?_⟩
  cases found : g.link? link with
  | none =>
    unfold Graph.detachLink
    rw [found]
    exact f.into_iff id slot k
  | some l =>
    rw [f.into_detachLink_iff found, f.into_iff, detachLink_find?]
    by_cases same : k = link <;> simp [same]

theorem Fed.detachAll (f : g.Fed) (links : List LinkId) :
    (links.foldl (fun g link => (g.detachLink link).1) g).Fed := by
  induction links generalizing g with
  | nil => exact f
  | cons link links ih => exact ih (f.detachLink link)

theorem disconnectInput_eq (g : Graph) (id : NodeId) (slot : Nat) :
    g.disconnectInput id slot =
      match g.into id slot with
      | none => (g, none)
      | some link => g.detachLink link := by
  have same : (do (← (← g.node? id).inputs[slot]?).link) = g.into id slot :=
    (Option.bind_assoc ..).symm
  exact congrArg (fun link => match link with
    | none => (g, none)
    | some link => g.detachLink link) same

theorem Fed.disconnectInput (f : g.Fed) (id : NodeId) (slot : Nat) :
    (g.disconnectInput id slot).1.Fed := by
  rw [disconnectInput_eq]
  split
  · exact f
  · exact f.detachLink _

theorem Fed.into_disconnectInput (f : g.Fed) (id : NodeId) (slot : Nat) :
    (g.disconnectInput id slot).1.into id slot = none := by
  rw [disconnectInput_eq]
  split
  · next unfed => exact unfed
  · next link recorded =>
    obtain ⟨l, found, rfl, rfl⟩ := (f.into_iff _ _ _).1 recorded
    rw [f.into_detachLink found, if_pos ⟨rfl, rfl⟩, recorded]
    simp [Option.filter]

theorem Fed.inputLink?_disconnectInput (f : g.Fed) {target id : NodeId} {targetSlot slot : Nat}
    (other : ¬(id = target ∧ slot = targetSlot)) :
    (g.disconnectInput target targetSlot).1.inputLink? id slot = g.inputLink? id slot := by
  apply Option.ext
  intro l
  rw [(f.disconnectInput target targetSlot).inputLink?_eq_some_iff, f.inputLink?_eq_some_iff]
  apply and_congr_left
  rintro ⟨rfl, rfl⟩
  rw [disconnectInput_eq]
  split
  · rfl
  · next link recorded =>
    obtain ⟨l', found, rfl, rfl⟩ := (f.into_iff _ _ _).1 recorded
    rw [link?, detachLink_find?]
    split
    · next same =>
      subst same
      simp only [reduceCtorEq, false_iff]
      intro found'
      cases found.symm.trans found'
      exact other ⟨rfl, rfl⟩
    · rfl

end Detach

section Join

variable {l l' : Link}

theorem join_find? (g : Graph) (l : Link) (k : LinkId) :
    (g.join l).links.find? k = if k = l.id then some l else g.links.find? k := by
  rw [← file_find? g l l.id]
  simp [join, modifyInput, modifyOutput]

theorem exists_join_iff (free : g.links.find? l.id = none) (P : Link → Prop) (k : LinkId) :
    (∃ l', (g.join l).links.find? k = some l' ∧ P l') ↔
      (k = l.id ∧ P l) ∨ ∃ l', g.links.find? k = some l' ∧ P l' := by
  rw [join_find?]
  by_cases same : k = l.id
  · subst same
    simp [free]
  · simp [same]

theorem into_join_iff (filed : (g.file l l.id).Sound)
    (unfed : g.into l.target l.targetSlot = none) (id : NodeId) (slot : Nat) (k : LinkId) :
    (g.join l).into id slot = some k ↔
      (k = l.id ∧ l.target = id ∧ l.targetSlot = slot) ∨ g.into id slot = some k := by
  rw [filed.into_join]
  by_cases here : id = l.target ∧ slot = l.targetSlot
  · obtain ⟨rfl, rfl⟩ := here
    simp [unfed, eq_comm]
  · have elsewhere : ¬(l.target = id ∧ l.targetSlot = slot) :=
      fun there => here ⟨there.1.symm, there.2.symm⟩
    simp [here, elsewhere]

theorem Fed.join (f : g.Fed) (filed : (g.file l l.id).Sound)
    (unfed : g.into l.target l.targetSlot = none) (free : g.links.find? l.id = none) :
    (g.join l).Fed := by
  refine ⟨filed.thinner (join_thinner g l), fun id slot k => ?_⟩
  rw [into_join_iff filed unfed, exists_join_iff free, ← f.into_iff]

theorem inputLink?_join_self (filed : (g.file l l.id).Sound) :
    (g.join l).inputLink? l.target l.targetSlot = some l := by
  rw [inputLink?_eq_bind_into, filed.into_join, if_pos ⟨rfl, rfl⟩]
  exact (join_find? g l l.id).trans (if_pos rfl)

/-- A link under a free id changes what no other input slot yields. -/
theorem Fed.inputLink?_join (f : g.Fed) (filed : (g.file l l.id).Sound)
    (free : g.links.find? l.id = none) {id : NodeId} {slot : Nat}
    (other : ¬(id = l.target ∧ slot = l.targetSlot)) :
    (g.join l).inputLink? id slot = g.inputLink? id slot := by
  rw [inputLink?_eq_bind_into, inputLink?_eq_bind_into, filed.into_join, if_neg other]
  cases recorded : g.into id slot with
  | none => rfl
  | some k =>
    obtain ⟨l', stored, _⟩ := (f.into_iff id slot k).1 recorded
    have apart : k ≠ l.id := by
      rintro rfl
      rw [free] at stored
      cases stored
    exact (join_find? g l k).trans (if_neg apart)

end Join

section Nodes

theorem into_eq_none_of_bare {id : NodeId} (bare : ∀ n, g.node? id = some n → n.Bare)
    (slot : Nat) : g.into id slot = none := by
  cases found : g.node? id with
  | none => simp [into, input, found]
  | some n =>
    rw [into_eq_wiring found]
    exact (bare n found).into slot

theorem Fed.modifyNode (f : g.Fed) (id : NodeId) {e : Node → Node} (keeps : Node.KeepsSlots e) :
    (g.modifyNode id e).Fed := by
  refine f.congr (f.toSound.thinner (KeepsSlots.thinner keeps)) ?_ (modifyNode_links g id e)
  funext k slot
  rw [into, into, f.input_modifyNode fun n => (keeps n).2.1]

theorem Fed.push (f : g.Fed) {n : Node} (bare : n.Bare) (free : g.hasNode n.id = false)
    (last : NodeId) : (g.push n last).Fed := by
  refine f.congr (f.toSound.push free last) ?_ rfl
  funext id slot
  rw [into, into, input, input, f.node?_push free]
  split
  · next new =>
    have absent : g.node? id = none := by
      rw [Option.eq_none_iff_forall_ne_some]
      intro m found
      obtain ⟨hm, hid⟩ := f.node?_eq_some_iff.1 found
      exact f.hasNode_eq_false_iff.1 free m hm (hid.trans new)
    rw [absent]
    exact bare.into slot
  · rfl

theorem Fed.drop (f : g.Fed) {id : NodeId} {i : Nat} (at_ : g.index.find? id = some i)
    (loose : ∀ k l, g.links.find? k = some l → l.origin ≠ id ∧ l.target ≠ id) :
    (g.drop i).Fed := by
  have sound := f.toSound.drop at_ loose
  refine f.congr sound ?_ rfl
  funext k slot
  by_cases gone : k = id
  · have unfed : g.into k slot = none := by
      rw [Option.eq_none_iff_forall_ne_some]
      intro link recorded
      obtain ⟨l, stored, target, _⟩ := (f.into_iff k slot link).1 recorded
      exact (loose link l stored).2 (target.trans gone)
    rw [unfed, into, input, f.node?_drop sound at_, if_pos gone]
    rfl
  · rw [into, into, input, input, f.node?_drop sound at_, if_neg gone]

theorem Fed.removeNode (f : g.Fed) (id : NodeId) : (g.removeNode id).1.Fed := by
  cases at_ : g.index.find? id with
  | none => rwa [removeNode_of_absent at_]
  | some i =>
    rw [removeNode_eq_drop at_]
    apply (f.detachAll (g.linksAt id)).drop
    · rwa [← (isolate_thinner g id).index] at at_
    · exact fun k l found => f.anchored.isolate_loose found

end Nodes

section Connect

variable {origin target : NodeId} {originSlot targetSlot : Nat} {id : LinkId}

theorem Fed.connect (f : g.Fed) (b : g.Bounded)
    (ok : g.connect origin originSlot target targetSlot = some (.ok (g', id))) : g'.Fed := by
  have free := b.connect_free ok
  obtain ⟨l, rfl, rfl, rfl, filed, rfl⟩ := f.file_of_connect ok
  exact (f.disconnectInput _ _).join filed (f.into_disconnectInput _ _) free

theorem Fed.inputLink?_connect (f : g.Fed) (b : g.Bounded)
    (ok : g.connect origin originSlot target targetSlot = some (.ok (g', id))) :
    (∃ l, l.id = id ∧ g'.inputLink? target targetSlot = some l) ∧
      ∀ n i, ¬(n = target ∧ i = targetSlot) → g'.inputLink? n i = g.inputLink? n i := by
  have free := b.connect_free ok
  obtain ⟨l, rfl, rfl, rfl, filed, rfl⟩ := f.file_of_connect ok
  refine ⟨⟨l, rfl, inputLink?_join_self filed⟩, fun n i other => ?_⟩
  rw [(f.disconnectInput _ _).inputLink?_join filed free other, f.inputLink?_disconnectInput other]

end Connect

theorem Fed.apply (f : g.Fed) (b : g.Bounded) (stays : ¬Replaces op) (bare : op.AddsBare)
    (done : g.apply op = some g') : g'.Fed := by
  apply apply_cases_of_stays stays done f
  case reported => exact fun g id e reports f => f.modifyNode id reports.keepsSlots
  case edited => exact fun id e _ => f.modifyNode id e.keepsSlots
  case added =>
    rintro n id rfl ok
    have free := b.addNode_free f.toSound ok
    have bare : Node.Bare { n with id := id } := ⟨bare.inputs, bare.outputs⟩
    rw [(addNode_ok ok).1]
    exact f.push bare free _
  case removed => exact f.removeNode
  case connected => exact fun o os t ts id _ ok => f.connect b ok
  case disconnected => exact f.disconnectInput
  case grouped =>
    exact fun group => ⟨⟨f.distinct, f.indexed, f.keyed, f.leaves, f.enters⟩, f.into_iff⟩

theorem Later.fed (later : Later (fun _ op => op.AddsBare) g g') (f : g.Fed) (b : g.Bounded) :
    g'.Fed ∧ g'.Bounded := by
  induction later with
  | refl => exact ⟨f, b⟩
  | step _ bare stays done ih => exact ⟨ih.1.apply ih.2 stays bare done, ih.2.apply done⟩

end Graph

end Flowgraph
