import Flowgraph.Proofs.Graph.Sound

namespace Flowgraph.Graph

def input (g : Graph) (id : NodeId) (slot : Nat) : Option InputSlot :=
  (g.node? id).bind (·.inputs[slot]?)

def output (g : Graph) (id : NodeId) (slot : Nat) : Option OutputSlot :=
  (g.node? id).bind (·.outputs[slot]?)

/-- The link that an input slot records. -/
def into (g : Graph) (id : NodeId) (slot : Nat) : Option LinkId :=
  (g.input id slot).bind (·.link)

/-- The links that an output slot records. -/
def outOf (g : Graph) (id : NodeId) (slot : Nat) : List LinkId :=
  ((g.output id slot).map (·.links)).getD []

theorem inputLink?_eq_bind_into (g : Graph) (id : NodeId) (slot : Nat) :
    g.inputLink? id slot = (g.into id slot).bind g.link? := by
  simp only [inputLink?, into, input, Option.bind_eq_bind, Option.bind_assoc]

variable {g : Graph} {id k : NodeId} {slot i : Nat}

theorem Sound.node?_modifyNode (h : g.Sound) (id k : NodeId) (f : Node → Node) :
    (g.modifyNode id f).node? k = if k = id then (g.node? k).map f else g.node? k := by
  simp only [node?, Option.bind_eq_bind, modifyNode_index]
  cases atk : g.index.find? k with
  | none => simp
  | some j =>
    unfold modifyNode
    cases at_ : g.index.find? id with
    | none =>
      have other : k ≠ id := by
        rintro rfl
        simp [atk] at at_
      simp [other]
    | some i =>
      have same : i = j ↔ k = id := by
        have atk := (h.indexed k j).1 atk
        have at_ := (h.indexed id i).1 at_
        constructor
        · rintro rfl
          exact Option.some.inj (atk.symm.trans at_)
        · rintro rfl
          exact Option.some.inj (((h.indexed k i).2 at_).symm.trans ((h.indexed k j).2 atk))
      simp only [Option.bind_some, List.getElem?_modify, same]
      split <;> simp

section Modify

variable {α : Type} {slots : Node → List α} {f : Node → Node}

theorem Sound.slot_modifyNode (h : g.Sound) {e : α → α}
    (modifies : ∀ n, slots (f n) = (slots n).modify slot e) :
    ((g.modifyNode id f).node? k).bind (fun n => (slots n)[i]?) = if k = id ∧ i = slot
      then ((g.node? k).bind fun n => (slots n)[i]?).map e
      else (g.node? k).bind fun n => (slots n)[i]? := by
  rw [h.node?_modifyNode]
  by_cases same : k = id
  · cases g.node? k with
    | none => simp
    | some n =>
      simp only [same, if_true, Option.map_some, Option.bind_some, modifies,
        List.getElem?_modify, true_and, @eq_comm _ slot]
      split <;> simp
  · simp [same]

theorem Sound.slot_modifyNode_of_keeps (h : g.Sound) (keeps : ∀ n, slots (f n) = slots n) :
    ((g.modifyNode id f).node? k).bind (fun n => (slots n)[i]?) =
      (g.node? k).bind fun n => (slots n)[i]? := by
  rw [h.node?_modifyNode]
  split
  · cases g.node? k with
    | none => rfl
    | some n => simp [keeps]
  · rfl

end Modify

theorem Sound.input_modifyInput (h : g.Sound) (f : InputSlot → InputSlot) :
    (g.modifyInput id slot f).input k i =
      if k = id ∧ i = slot then (g.input k i).map f else g.input k i :=
  h.slot_modifyNode fun _ => rfl

theorem Sound.output_modifyOutput (h : g.Sound) (f : OutputSlot → OutputSlot) :
    (g.modifyOutput id slot f).output k i =
      if k = id ∧ i = slot then (g.output k i).map f else g.output k i :=
  h.slot_modifyNode fun _ => rfl

theorem Sound.input_modifyNode (h : g.Sound) {f : Node → Node}
    (keeps : ∀ n, (f n).inputs = n.inputs) : (g.modifyNode id f).input k i = g.input k i :=
  h.slot_modifyNode_of_keeps keeps

theorem Sound.output_modifyNode (h : g.Sound) {f : Node → Node}
    (keeps : ∀ n, (f n).outputs = n.outputs) : (g.modifyNode id f).output k i = g.output k i :=
  h.slot_modifyNode_of_keeps keeps

theorem Sound.input_modifyOutput (h : g.Sound) (f : OutputSlot → OutputSlot) :
    (g.modifyOutput id slot f).input k i = g.input k i :=
  h.input_modifyNode fun _ => rfl

theorem Sound.output_modifyInput (h : g.Sound) (f : InputSlot → InputSlot) :
    (g.modifyInput id slot f).output k i = g.output k i :=
  h.output_modifyNode fun _ => rfl

section Detach

variable {link : LinkId} {l : Link}

theorem Sound.input_detachLink (h : g.Sound) (found : g.link? link = some l) :
    (g.detachLink link).1.input k i = if k = l.target ∧ i = l.targetSlot
      then (g.input k i).map (InputSlot.drop link) else g.input k i := by
  have erased := h.thinner (erase_thinner g link)
  have dropped := erased.thinner
    (modifyOutput_thinner _ l.origin l.originSlot (OutputSlot.drop link))
  simp only [detachLink, found]
  rw [dropped.input_modifyInput, erased.input_modifyOutput]
  rfl

theorem Sound.output_detachLink (h : g.Sound) (found : g.link? link = some l) :
    (g.detachLink link).1.output k i = if k = l.origin ∧ i = l.originSlot
      then (g.output k i).map (OutputSlot.drop link) else g.output k i := by
  have erased := h.thinner (erase_thinner g link)
  have dropped := erased.thinner
    (modifyOutput_thinner _ l.origin l.originSlot (OutputSlot.drop link))
  simp only [detachLink, found]
  rw [dropped.output_modifyInput, erased.output_modifyOutput]
  rfl

/-- Detaching a link empties the input slot that it feeds and no other. -/
theorem Sound.into_detachLink (h : g.Sound) (found : g.link? link = some l) :
    (g.detachLink link).1.into k i = if k = l.target ∧ i = l.targetSlot
      then (g.into k i).filter (· != link) else g.into k i := by
  simp only [into, h.input_detachLink found]
  split
  · cases g.input k i with
    | none => rfl
    | some s =>
      simp only [Option.map_some, Option.bind_some, InputSlot.drop]
      cases recorded : s.link with
      | none => simp [recorded]
      | some other => by_cases same : other = link <;> simp [recorded, same, Option.filter]
  · rfl

theorem Sound.outOf_detachLink (h : g.Sound) (found : g.link? link = some l) :
    (g.detachLink link).1.outOf k i = if k = l.origin ∧ i = l.originSlot
      then (g.outOf k i).filter (· != link) else g.outOf k i := by
  simp only [outOf, h.output_detachLink found]
  split
  · cases g.output k i with
    | none => rfl
    | some s => rfl
  · rfl

end Detach

theorem Sound.input_isSome (h : g.Sound) {link : LinkId} {l : Link}
    (found : g.links.find? link = some l) : (g.input l.target l.targetSlot).isSome := by
  obtain ⟨n, hn, hid, hslot⟩ := h.enters link l found
  simp [input, h.node?_eq_some_iff.2 ⟨hn, hid⟩, hslot]

theorem Sound.output_isSome (h : g.Sound) {link : LinkId} {l : Link}
    (found : g.links.find? link = some l) : (g.output l.origin l.originSlot).isSome := by
  obtain ⟨n, hn, hid, hslot⟩ := h.leaves link l found
  simp [output, h.node?_eq_some_iff.2 ⟨hn, hid⟩, hslot]

section Join

variable {l : Link}

theorem file_find? (g : Graph) (l : Link) (last link : LinkId) :
    (g.file l last).links.find? link = if link = l.id then some l else g.links.find? link :=
  SortedMap.find?_insert ..

theorem Sound.into_join (h : (g.file l l.id).Sound) :
    (g.join l).into k i =
      if k = l.target ∧ i = l.targetSlot then some l.id else g.into k i := by
  have added := h.thinner
    (modifyOutput_thinner _ l.origin l.originSlot (OutputSlot.add l.id))
  have eq : (g.join l).input k i = if k = l.target ∧ i = l.targetSlot
      then (g.input k i).map (InputSlot.fill l.id) else g.input k i := by
    rw [join, added.input_modifyInput, h.input_modifyOutput]
    rfl
  simp only [into, eq]
  split
  · next here =>
    have present := h.input_isSome (by rw [file_find?, if_pos rfl])
    obtain ⟨s, found⟩ := Option.isSome_iff_exists.1 present
    have found : g.input k i = some s := by rwa [here.1, here.2]
    simp [found, InputSlot.fill]
  · rfl

theorem Sound.outOf_join (h : (g.file l l.id).Sound) :
    (g.join l).outOf k i =
      if k = l.origin ∧ i = l.originSlot then g.outOf k i ++ [l.id] else g.outOf k i := by
  have added := h.thinner
    (modifyOutput_thinner _ l.origin l.originSlot (OutputSlot.add l.id))
  have eq : (g.join l).output k i = if k = l.origin ∧ i = l.originSlot
      then (g.output k i).map (OutputSlot.add l.id) else g.output k i := by
    rw [join, added.output_modifyInput, h.output_modifyOutput]
    rfl
  simp only [outOf, eq]
  split
  · next here =>
    have present := h.output_isSome (by rw [file_find?, if_pos rfl])
    obtain ⟨s, found⟩ := Option.isSome_iff_exists.1 present
    have found : g.output k i = some s := by rwa [here.1, here.2]
    simp [found, OutputSlot.add]
  · rfl

end Join

theorem Sound.node?_push (h : g.Sound) {n : Node} (free : g.hasNode n.id = false)
    (last : NodeId) : (g.push n last).node? k = if k = n.id then some n else g.node? k := by
  apply Option.ext
  intro m
  rw [(h.push free last).node?_eq_some_iff]
  have absent := h.hasNode_eq_false_iff.1 free
  simp only [Graph.push, List.mem_append, List.mem_singleton]
  split
  · next same =>
    subst same
    constructor
    · rintro ⟨hm | rfl, hid⟩
      · exact absurd hid (absent m hm)
      · rfl
    · rintro ⟨⟩
      exact ⟨.inr rfl, rfl⟩
  · next other =>
    rw [h.node?_eq_some_iff]
    constructor
    · rintro ⟨hm | rfl, hid⟩
      · exact ⟨hm, hid⟩
      · exact absurd hid.symm other
    · rintro ⟨hm, hid⟩
      exact ⟨.inl hm, hid⟩

theorem Sound.node?_drop (h : g.Sound) (h' : (g.drop i).Sound) (at_ : g.index.find? id = some i) :
    (g.drop i).node? k = if k = id then none else g.node? k := by
  have place := (h.indexed id i).1 at_
  apply Option.ext
  intro m
  rw [h'.node?_eq_some_iff]
  simp only [Graph.drop, List.mem_eraseIdx_iff_getElem?]
  split
  · next same =>
    subst same
    constructor
    · rintro ⟨⟨j, ne, hj⟩, hid⟩
      have at' : g.index.find? k = some j := (h.indexed k j).2 (by simp [hj, hid])
      exact absurd (Option.some.inj (at'.symm.trans at_)) ne
    · rintro ⟨⟩
  · next other =>
    rw [h.node?_eq_some_iff]
    constructor
    · rintro ⟨⟨j, _, hj⟩, hid⟩
      exact ⟨List.mem_of_getElem? hj, hid⟩
    · rintro ⟨hm, hid⟩
      obtain ⟨j, hj⟩ := List.mem_iff_getElem?.1 hm
      refine ⟨⟨j, ?_, hj⟩, hid⟩
      rintro rfl
      rw [hj, Option.map_some, Option.some.injEq] at place
      exact other (hid.symm.trans place)

end Flowgraph.Graph
