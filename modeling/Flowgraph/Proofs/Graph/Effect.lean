import Flowgraph.Proofs.Graph.Detachment
import Flowgraph.Proofs.Graph.Freshness
import Flowgraph.Proofs.Graph.Readiness

namespace Flowgraph

def Node.record (l : Link) (n : Node) : Node :=
  { n with
    outputs := if n.id = l.origin then n.outputs.modify l.originSlot (.add l.id) else n.outputs
    inputs := if n.id = l.target then n.inputs.modify l.targetSlot (.fill l.id) else n.inputs }

/-- A graph with one more link in the table and in the slots at its ends. Its id is the last one. -/
def Graph.record (g : Graph) (l : Link) : Graph :=
  { g with nodes := g.nodes.map (.record l), links := g.links.insert l.id l, lastLink := l.id }

/-- The slots cannot be connected, because of what is missing: the node or the slot that the link
would leave, or then the node or the slot that it would enter. -/
inductive Graph.Refuses (g : Graph) (origin : NodeId) (originSlot : Nat) (target : NodeId)
    (targetSlot : Nat) : GraphError → Prop where
  | noOrigin (missing : g.node? origin = none) :
    Refuses g origin originSlot target targetSlot (.nodeNotFound origin)
  | noOutput {o : Node} (found : g.node? origin = some o) (short : o.outputs.length ≤ originSlot) :
    Refuses g origin originSlot target targetSlot (.noOutputSlot origin originSlot)
  | noTarget {o : Node} (found : g.node? origin = some o) (fits : originSlot < o.outputs.length)
      (missing : g.node? target = none) :
    Refuses g origin originSlot target targetSlot (.nodeNotFound target)
  | noInput {o t : Node} (found : g.node? origin = some o) (fits : originSlot < o.outputs.length)
      (found' : g.node? target = some t) (short : t.inputs.length ≤ targetSlot) :
    Refuses g origin originSlot target targetSlot (.noInputSlot target targetSlot)

namespace Graph

variable {g g' : Graph} {origin target : NodeId} {originSlot targetSlot : Nat} {id : LinkId}

section Connect

theorem Refuses.linkType {e : GraphError} (r : g.Refuses origin originSlot target targetSlot e) :
    g.linkType origin originSlot target targetSlot = .error e := by
  cases r with
  | noOrigin missing =>
    simp only [Graph.linkType, missing]
    rfl
  | noOutput found short =>
    simp only [Graph.linkType, found, List.getElem?_eq_none short]
    rfl
  | noTarget found fits missing =>
    simp only [Graph.linkType, found, List.getElem?_eq_getElem fits, missing]
    rfl
  | noInput found fits found' short =>
    simp only [Graph.linkType, found, List.getElem?_eq_getElem fits, found', short, if_true]
    rfl

theorem refuses_or_linkType (g : Graph) (origin : NodeId) (originSlot : Nat) (target : NodeId)
    (targetSlot : Nat) : (∃ e, g.Refuses origin originSlot target targetSlot e) ∨
      ∃ type, g.linkType origin originSlot target targetSlot = .ok type := by
  cases found : g.node? origin with
  | none => exact .inl ⟨_, .noOrigin found⟩
  | some o =>
    rcases Nat.lt_or_ge originSlot o.outputs.length with fits | short
    · cases found' : g.node? target with
      | none => exact .inl ⟨_, .noTarget found fits found'⟩
      | some t =>
        rcases Nat.lt_or_ge targetSlot t.inputs.length with fits' | short
        · refine .inr (linkType_of_slots ?_ ?_)
          · simp [output, found, fits]
          · simp [input, found', fits']
        · exact .inl ⟨_, .noInput found fits found' short⟩
    · exact .inl ⟨_, .noOutput found short⟩

theorem connect_eq_error_iff {e : GraphError} :
    g.connect origin originSlot target targetSlot = some (.error e) ↔
      g.Refuses origin originSlot target targetSlot e := by
  refine ⟨fun failed => ?_, fun r => connect_of_linkType_error r.linkType⟩
  obtain ⟨e', r⟩ | ⟨type, typed⟩ := refuses_or_linkType g origin originSlot target targetSlot
  · cases (connect_of_linkType_error r.linkType).symm.trans failed
    exact r
  · obtain ⟨_, stopped⟩ | ⟨_, g', ok⟩ := connect_of_linkType_ok typed
    · cases stopped.symm.trans failed
    · cases ok.symm.trans failed

theorem Sound.join_eq_record (h : g.Sound) (l : Link) : g.join l = g.record l :=
  modifyEnds_eq (g := g.file l l.id) h.indexed ..

end Connect

section Slots

variable {gone : List LinkId} {n : NodeId} {i : Nat}

/-- Nodes that keep what a slot holds, each in its place, keep what is read of it. -/
theorem slot_of_map {α : Type} {slots : Node → List α} (f : Node → Node)
    (index : g'.index = g.index) (nodes : g'.nodes = g.nodes.map f)
    (same : ∀ m, g.node? n = some m → (slots (f m))[i]? = (slots m)[i]?) :
    (g'.node? n).bind (fun m => (slots m)[i]?) = (g.node? n).bind fun m => (slots m)[i]? := by
  have mapped : g'.node? n = (g.node? n).map f := by
    simp only [node?, index, nodes, Option.bind_eq_bind, List.getElem?_map, Option.map_bind]
    rfl
  rw [mapped]
  cases found : g.node? n with
  | none => rfl
  | some m => exact same m found

theorem input_without (kept : ∀ k ∈ gone, g.into n i ≠ some k) :
    (g.without gone).input n i = g.input n i := by
  apply slot_of_map (.forget gone)
  case index => rfl
  case nodes => rfl
  case same =>
    intro m found
    rw [Node.forget, List.getElem?_map]
    cases at_ : m.inputs[i]? with
    | none => rfl
    | some s =>
      rw [into_eq_link found at_] at kept
      rw [Option.map_some, s.forget_eq_self kept]

theorem output_without (kept : ∀ k ∈ gone, k ∉ g.outOf n i) :
    (g.without gone).output n i = g.output n i := by
  apply slot_of_map (.forget gone)
  case index => rfl
  case nodes => rfl
  case same =>
    intro m found
    rw [Node.forget, List.getElem?_map]
    cases at_ : m.outputs[i]? with
    | none => rfl
    | some s =>
      rw [outOf_eq_links found at_] at kept
      rw [Option.map_some, s.forget_eq_self kept]

theorem Sound.input_record (h : g.Sound) {l : Link} (other : ¬(n = l.target ∧ i = l.targetSlot)) :
    (g.record l).input n i = g.input n i := by
  apply slot_of_map (.record l)
  case index => rfl
  case nodes => rfl
  case same =>
    intro m found
    obtain ⟨_, rfl⟩ := h.node?_eq_some_iff.1 found
    dsimp only [Node.record]
    split
    · next here =>
      have away : l.targetSlot ≠ i := fun same => other ⟨here, same.symm⟩
      rw [List.getElem?_modify_ne _ _ away]
    · rfl

theorem Sound.output_record (h : g.Sound) {l : Link} (other : ¬(n = l.origin ∧ i = l.originSlot)) :
    (g.record l).output n i = g.output n i := by
  apply slot_of_map (.record l)
  case index => rfl
  case nodes => rfl
  case same =>
    intro m found
    obtain ⟨_, rfl⟩ := h.node?_eq_some_iff.1 found
    dsimp only [Node.record]
    split
    · next here =>
      have away : l.originSlot ≠ i := fun same => other ⟨here, same.symm⟩
      rw [List.getElem?_modify_ne _ _ away]
    · rfl

end Slots

/-- A new link is there, and the one that fed its input slot is gone. -/
structure Connects (g : Graph) (l : Link) (g' : Graph) : Prop where
  typed : (g.output l.origin l.originSlot).map (·.type) = some l.type
  edit : g' = (g.without (g.into l.target l.targetSlot).toList).record l
  table : ∀ k m, g'.link? k = some m ↔
    k = l.id ∧ m = l ∨ g.into l.target l.targetSlot ≠ some k ∧ g.link? k = some m
  inputs : ∀ n i, ¬(n = l.target ∧ i = l.targetSlot) → g'.input n i = g.input n i
  outputs : ∀ n i, ¬(n = l.origin ∧ i = l.originSlot) →
    (∀ m, g.inputLink? l.target l.targetSlot = some m → ¬(n = m.origin ∧ i = m.originSlot)) →
    g'.output n i = g.output n i

theorem Consistent.disconnectInput_eq (c : g.Consistent) (target : NodeId) (slot : Nat) :
    g.disconnectInput target slot =
      (g.without (g.into target slot).toList, g.inputLink? target slot) := by
  rw [Graph.disconnectInput_eq, inputLink?_eq_bind_into]
  cases recorded : g.into target slot with
  | none => exact congrArg (·, none) (without_nil g).symm
  | some k =>
    obtain ⟨l, found, _⟩ := (c.agrees.into_iff _ _ _).1 recorded
    exact (c.detachLink_eq_without found).trans (congrArg _ found.symm)

theorem record_link? (g : Graph) (l : Link) (k : LinkId) :
    (g.record l).link? k = if k = l.id then some l else g.link? k :=
  SortedMap.find?_insert ..

/-- A link under a free id is put beside the others, but for the one that fed its slot. -/
theorem Consistent.link?_record (c : g.Consistent) {l : Link}
    (free : (g.disconnectInput l.target l.targetSlot).1.link? l.id = none) (k : LinkId) (m : Link) :
    ((g.without (g.into l.target l.targetSlot).toList).record l).link? k = some m ↔
      k = l.id ∧ m = l ∨ g.into l.target l.targetSlot ≠ some k ∧ g.link? k = some m := by
  rw [c.disconnectInput_eq, link?_without] at free
  rw [record_link?, link?_without]
  simp only [Option.mem_toList] at free ⊢
  split
  · next same =>
    subst same
    simp only [Option.some.injEq, true_and, eq_comm (a := l), iff_self_or, and_imp]
    intro unfed taken
    rw [if_neg unfed] at free
    cases free.symm.trans taken
  · next other => split <;> simp [*]

theorem Consistent.into_eq (c : g.Consistent) (target : NodeId) (slot : Nat) :
    g.into target slot = (g.inputLink? target slot).map (·.id) := by
  rw [inputLink?_eq_bind_into]
  cases recorded : g.into target slot with
  | none => rfl
  | some k =>
    obtain ⟨l, found, _⟩ := (c.agrees.into_iff _ _ _).1 recorded
    rw [Option.bind_some, link?, found, Option.map_some, c.keyed k l found]

theorem Consistent.connects (c : g.Consistent) (b : g.Bounded)
    (ok : g.connect origin originSlot target targetSlot = some (.ok (g', id))) :
    ∃ type, g.Connects ⟨id, origin, originSlot, target, targetSlot, type⟩ g' := by
  obtain ⟨type, typed, _, _, joined⟩ := connect_ok ok
  obtain ⟨o, out, t, ho, hout, _, _, rfl⟩ := linkType_eq_ok_iff.1 typed
  have parted := c.toSound.thinner (disconnectInput_thinner g target targetSlot)
  rw [parted.join_eq_record] at joined
  have eq := congrArg Prod.fst (c.disconnectInput_eq target targetSlot)
  rw [eq] at joined parted
  refine ⟨out.type, ?_⟩
  constructor
  case typed => rw [output, ho, Option.bind_some, hout, Option.map_some]
  case edit => exact joined
  case table =>
    rw [joined]
    exact c.link?_record (l := ⟨id, origin, originSlot, target, targetSlot, out.type⟩)
      (b.connect_free ok)
  case inputs =>
    intro n i other
    rw [joined, parted.input_record other]
    apply input_without
    intro k fed recorded
    rw [Option.mem_toList] at fed
    obtain ⟨l, found, ends⟩ := (c.agrees.into_iff _ _ _).1 fed
    obtain ⟨l', found', rfl, rfl⟩ := (c.agrees.into_iff _ _ _).1 recorded
    cases found.symm.trans found'
    exact other ends
  case outputs =>
    intro n i other elsewhere
    rw [joined, parted.output_record other]
    apply output_without
    intro k fed recorded
    rw [Option.mem_toList] at fed
    obtain ⟨l, found, rfl, rfl⟩ := (c.agrees.mem_outOf_iff _ _ _).1 recorded
    refine elsewhere l ?_ ⟨rfl, rfl⟩
    rw [inputLink?_eq_bind_into, fed]
    exact found

section Remove

variable {n : Node}

def withoutNode (g : Graph) (id : NodeId) : Graph :=
  let nodes := (g.nodes.filter (·.id ≠ id)).map (.forget (g.linksAt id))
  { g.without (g.linksAt id) with nodes := nodes, index := indexOf nodes }

theorem Sound.mem_linksAt_iff (h : g.Sound) {id : NodeId} {k : LinkId} :
    k ∈ g.linksAt id ↔ ∃ l, g.link? k = some l ∧ (l.origin = id ∨ l.target = id) := by
  simp only [linksAt, List.mem_map, List.mem_filter, decide_eq_true_eq]
  constructor
  · rintro ⟨l, ⟨mem, touches⟩, rfl⟩
    exact ⟨l, h.mem_values_iff.1 mem, touches⟩
  · rintro ⟨l, found, touches⟩
    exact ⟨l, ⟨SortedMap.mem_values_iff.2 ⟨k, found⟩, touches⟩, h.keyed k l found⟩

theorem Sound.linksAt_of_free (h : g.Sound) {id : NodeId} (free : g.hasNode id = false) :
    g.linksAt id = [] := by
  rw [List.eq_nil_iff_forall_not_mem]
  intro k listed
  obtain ⟨l, found, touches⟩ := h.mem_linksAt_iff.1 listed
  have absent := h.hasNode_eq_false_iff.1 free
  rcases touches with rfl | rfl
  · obtain ⟨n, hn, here, _⟩ := h.leaves k l found
    exact absent n hn here
  · obtain ⟨n, hn, here, _⟩ := h.enters k l found
    exact absent n hn here

theorem Consistent.isolate_eq (c : g.Consistent) (id : NodeId) :
    g.isolate id = g.without (g.linksAt id) := by
  apply c.detachAll_eq_without
  · exact c.toSound.nodup_link_ids.sublist (List.filter_sublist.map _)
  · intro k listed
    obtain ⟨l, found, _⟩ := c.toSound.mem_linksAt_iff.1 listed
    exact ⟨l, found⟩

theorem eraseIdx_eq_filter {nodes : List Node} (distinct : (nodes.map (·.id)).Nodup) {id : NodeId}
    {i : Nat} (at_ : nodes[i]?.map (·.id) = some id) :
    nodes.eraseIdx i = nodes.filter (·.id ≠ id) := by
  induction nodes generalizing i with
  | nil => cases at_
  | cons n nodes ih =>
    obtain ⟨new, distinct⟩ := List.nodup_cons.1 distinct
    cases i with
    | zero =>
      obtain rfl : n.id = id := Option.some.inj at_
      have others : ∀ m ∈ nodes, decide (m.id ≠ n.id) = true := by
        intro m hm
        rw [decide_eq_true_iff]
        exact fun same => new (List.mem_map.2 ⟨m, hm, same⟩)
      rw [List.eraseIdx_cons_zero, List.filter_cons_of_neg (by simp), List.filter_eq_self.2 others]
    | succ i =>
      rw [List.getElem?_cons_succ] at at_
      obtain ⟨m, hm, rfl⟩ := Option.map_eq_some_iff.1 at_
      have other : n.id ≠ m.id := by
        intro same
        exact new (List.mem_map.2 ⟨m, List.mem_of_getElem? hm, same.symm⟩)
      rw [List.eraseIdx_cons_succ, List.filter_cons_of_pos (by simpa using other), ih distinct at_]

theorem Sound.removeNode_of_unknown (h : g.Sound) {id : NodeId} (missing : g.node? id = none) :
    g.removeNode id = (g, none) := by
  apply removeNode_of_absent
  rw [Option.eq_none_iff_forall_ne_some]
  intro i at_
  obtain ⟨n, here, _⟩ := Option.map_eq_some_iff.1 ((h.indexed id i).1 at_)
  cases missing.symm.trans (Option.bind_eq_some_iff.2 ⟨i, at_, here⟩)

theorem Consistent.removeNode_eq (c : g.Consistent) {id : NodeId} (found : g.node? id = some n) :
    g.removeNode id = (g.withoutNode id, some (n.forget (g.linksAt id))) := by
  obtain ⟨i, at_, here⟩ := Option.bind_eq_some_iff.1 found
  have rest := eraseIdx_eq_filter c.distinct ((c.indexed id i).1 at_)
  rw [removeNode_eq_drop at_, c.isolate_eq, drop, without, withoutNode]
  simp only [List.getElem?_map, here, Option.map_some, List.eraseIdx_map, rest]
  rfl

theorem Sound.link?_withoutNode (h : g.Sound) {id : NodeId} {k : LinkId} {l : Link} :
    (g.withoutNode id).link? k = some l ↔ g.link? k = some l ∧ l.origin ≠ id ∧ l.target ≠ id := by
  have read : (g.withoutNode id).link? k = if k ∈ g.linksAt id then none else g.link? k :=
    find?_erases ..
  rw [read]
  split
  · next touching =>
    obtain ⟨l', found, touches⟩ := h.mem_linksAt_iff.1 touching
    refine ⟨nofun, ?_⟩
    rintro ⟨found', origin, target⟩
    cases found.symm.trans found'
    exact (touches.elim origin target).elim
  · next away =>
    refine ⟨fun found => ⟨found, ?_, ?_⟩, And.left⟩
    · exact fun origin => away (h.mem_linksAt_iff.2 ⟨l, found, .inl origin⟩)
    · exact fun target => away (h.mem_linksAt_iff.2 ⟨l, found, .inr target⟩)

theorem Sound.index_eq (h : g.Sound) : indexOf g.nodes = g.index := by
  apply SortedMap.ext_find?
  intro id
  apply Option.ext
  intro i
  constructor
  · exact fun found => (h.indexed id i).2 (placed_indexOf found)
  · intro found
    obtain ⟨n, hn, rfl⟩ := Option.map_eq_some_iff.1 ((h.indexed id i).1 found)
    obtain ⟨j, found'⟩ := Option.isSome_iff_exists.1 (listed_indexOf (List.mem_of_getElem? hn))
    have there := (h.indexed n.id j).2 (placed_indexOf found')
    rw [found', Option.some.inj (there.symm.trans found)]

/-- Removing an added node gives the graph back, up to the count. -/
theorem WellFormed.removeNode_addNode (h : g.WellFormed) {n : Node}
    (added : g.addNode n = some (g', id)) :
    g'.removeNode id = ({ g with lastNode := g'.lastNode }, some { n with id := id }) := by
  have none := h.toSound.linksAt_of_free (h.toBounded.addNode_free h.toSound added)
  obtain ⟨rfl, _⟩ := addNode_ok added
  have at_ : (g.push { n with id := id } (max g.lastNode id)).index.find? id =
      some g.nodes.length := (SortedMap.find?_insert ..).trans (if_pos rfl)
  have same : (g.push { n with id := id } (max g.lastNode id)).linksAt id = [] := none
  rw [removeNode_eq_drop at_, isolate, same, List.foldl_nil, Graph.drop]
  simp only [Graph.push, List.eraseIdx_append_of_length_le (Nat.le_refl _), Nat.sub_self,
    List.eraseIdx_cons_zero, List.append_nil, h.toSound.index_eq, List.getElem?_concat_length]

end Remove

/-- What structural edits do to a graph whose slots mirror its links. Slots that are there are
connected under the next id, or the program stops because there is none, and no other slots change.
Disconnecting takes away the link that fed the slot. Removing takes away the node and the links at
it, and gives back the graph as it was before the node was added. -/
theorem WellFormed.edits_change_ends_only (h : g.WellFormed) (m : g.Mirrored) :
    (∀ o os t ts,
      (∀ e, g.connect o os t ts = some (.error e) ↔ g.Refuses o os t ts e) ∧
      (∀ e, g.Refuses o os t ts e → g.apply (.connect o os t ts) = some g) ∧
      ((∀ e, ¬g.Refuses o os t ts e) →
        (maxId ≤ g.lastLink ∧ g.connect o os t ts = none) ∨
        g.lastLink < maxId ∧ ∃ g' type, g.connect o os t ts = some (.ok (g', g.lastLink + 1)) ∧
          g.Connects ⟨g.lastLink + 1, o, os, t, ts, type⟩ g')) ∧
    (∀ t ts, (g.inputLink? t ts = none ∧ g.disconnectInput t ts = (g, none)) ∨
      ∃ l, g.inputLink? t ts = some l ∧ g.disconnectInput t ts = (g.without [l.id], some l)) ∧
    (∀ id, g.node? id = none → g.removeNode id = (g, none)) ∧
    (∀ id n, g.node? id = some n →
      g.removeNode id = (g.withoutNode id, some (n.forget (g.linksAt id))) ∧
      ∀ k l, (g.withoutNode id).link? k = some l ↔
        g.link? k = some l ∧ l.origin ≠ id ∧ l.target ≠ id) ∧
    ∀ n g' id, g.addNode n = some (g', id) →
      g'.removeNode id = ({ g with lastNode := g'.lastNode }, some { n with id := id }) := by
  have c : g.Consistent := ⟨h.toSound, m⟩
  refine ⟨?_, ?_, ?_, ?_, fun n g' id added => h.removeNode_addNode added⟩
  · intro o os t ts
    refine ⟨fun e => connect_eq_error_iff, fun e refuses => ?_, fun complete => ?_⟩
    · rw [Graph.apply, connect_eq_error_iff.2 refuses]
      rfl
    · obtain ⟨e, missing⟩ | ⟨type, typed⟩ := refuses_or_linkType g o os t ts
      · exact absurd missing (complete e)
      · refine (connect_of_linkType_ok typed).imp_right fun answered => ?_
        obtain ⟨room, g', ok⟩ := answered
        obtain ⟨type, connects⟩ := c.connects h.toBounded ok
        exact ⟨room, g', type, ok, connects⟩
  · intro t ts
    rw [c.disconnectInput_eq, c.into_eq]
    cases g.inputLink? t ts with
    | none => exact .inl ⟨rfl, congrArg (·, none) (without_nil g)⟩
    | some l => exact .inr ⟨l, rfl, rfl⟩
  · exact fun id missing => c.toSound.removeNode_of_unknown missing
  · intro id n found
    exact ⟨c.removeNode_eq found, fun k l => c.toSound.link?_withoutNode⟩

/-- A link makes way for one from the same slot, where a loop starts as well. Removing that node
takes them all, and a node that is added comes and goes. -/
theorem edits_of_loop_and_link :
    let both : Node := {
      type := "Both", inputs := [{ name := "in" }], outputs := [{ name := "out" }] }
    ∃ g, Graph.empty.run [.addNode both, .addNode both, .connect 1 0 1 0, .connect 1 0 2 0] =
        some g ∧ g.Mirrored ∧
      (∃ g' type, g.connect 1 0 2 0 = some (.ok (g', 3)) ∧ g.Connects ⟨3, 1, 0, 2, 0, type⟩ g' ∧
        g'.outOf 1 0 = [1, 3]) ∧
      g.connect 1 0 7 0 = some (.error (.nodeNotFound 7)) ∧
      (∀ k, (g.removeNode 1).1.link? k = none) ∧
      ∃ g', g.addNode both = some (g', 3) ∧
        g'.removeNode 3 = ({ g with lastNode := g'.lastNode }, some { both with id := 3 }) := by
  intro both
  let g := (Graph.empty.run [.addNode both, .addNode both, .connect 1 0 1 0,
    .connect 1 0 2 0]).get (by decide)
  have ran : Graph.empty.run [.addNode both, .addNode both, .connect 1 0 1 0, .connect 1 0 2 0] =
    some g := (Option.some_get _).symm
  have bare : both.Bare := ⟨by simp [both], by simp [both]⟩
  have reachable : Reachable (fun _ op => op.Clean) g :=
    .of_run .empty (by simp [Operation.Clean, bare]) ran
  have mirrored := reachable.consistent.mirrored
  obtain ⟨connect, _, _, remove, add⟩ :=
    (WellFormed.of_reachable reachable).edits_change_ends_only mirrored
  have last : g.lastLink = 2 := by decide
  have first : (g.node? 1).any (fun n => 0 < n.outputs.length) = true := by decide
  obtain ⟨n, found, fits⟩ := (Option.any_eq_true ..).1 first
  refine ⟨g, ran, mirrored, ?_, ?_, ?_, ?_⟩
  · have succeeds : (g.connect 1 0 2 0).any (·.toOption.isSome) = true := by decide
    have complete : ∀ e, ¬g.Refuses 1 0 2 0 e := by
      intro e missing
      rw [((connect 1 0 2 0).1 e).2 missing] at succeeds
      cases succeeds
    obtain ⟨spent, _⟩ | ⟨_, g', type, ok, connects⟩ := (connect 1 0 2 0).2.2 complete
    · exact absurd spent (by rw [last]; decide)
    · have listed : (g.connect 1 0 2 0).map (·.toOption.map (·.1.outOf 1 0)) =
        some (some [1, 3]) := by decide
      rw [ok] at listed
      rw [last] at ok connects
      exact ⟨g', type, ok, connects, Option.some.inj (Option.some.inj listed)⟩
  · have missing : (g.node? 7).isNone = true := by decide
    exact ((connect 1 0 7 0).1 _).2
      (.noTarget found (of_decide_eq_true fits) (Option.isNone_iff_eq_none.1 missing))
  · intro k
    obtain ⟨removed, links⟩ := remove 1 n found
    have fromFirst : ∀ l ∈ g.links.values, l.origin = 1 := by decide
    rw [removed, Option.eq_none_iff_forall_ne_some]
    intro l left
    obtain ⟨found, origin, _⟩ := (links k l).1 left
    exact origin (fromFirst l (SortedMap.mem_values_iff.2 ⟨k, found⟩))
  · have third : (g.addNode both).map (·.2) = some 3 := by decide
    obtain ⟨⟨g', _⟩, added, rfl⟩ := Option.map_eq_some_iff.1 third
    exact ⟨g', added, add both g' 3 added⟩

/-- After the last id there is none for another link, although its slots are there. -/
theorem not_connected_after_last_id :
    let stored : Snapshot := {
      nodes := [
        { id := 1, type := "Source", outputs := [{ name := "out" }] },
        { id := 2, type := "Sink", inputs := [{ name := "in" }] }]
      lastNode := 2, lastLink := maxId }
    ∃ g, ofSnapshot stored .empty = .ok g ∧ g.WellFormed ∧ g.Mirrored ∧
      (∀ e, ¬g.Refuses 1 0 2 0 e) ∧ g.connect 1 0 2 0 = none := by
  intro stored
  have unused : ∀ w ∈ stored.nodes.map NodeRecord.wiring, ∀ slot,
      w.into slot = none ∧ w.outOf slot = [] := by
    rintro _ (_ | ⟨_, _ | ⟨_, ⟨⟩⟩⟩) (_ | slot) <;> exact ⟨rfl, rfl⟩
  have clean : stored.Mirrored := {
    fed := nofun
    listed := nofun
    fed_only := nofun
    listed_only := nofun
    of_fed := fun w hw slot id recorded => by cases (unused w hw slot).1.symm.trans recorded
    of_listed := fun w hw slot id recorded => by
      rw [(unused w hw slot).2] at recorded
      cases recorded }
  let g := (Graph.empty.run [.configure stored .empty]).get (by decide)
  have read : ofSnapshot stored .empty = .ok g := rfl
  have typed : g.linkType 1 0 2 0 = .ok .null := rfl
  refine ⟨g, read, .of_ofSnapshot read, clean.ofSnapshot .empty read, fun e missing => ?_, rfl⟩
  cases missing.linkType.symm.trans typed

end Graph

end Flowgraph
