import Flowgraph.Proofs.Graph.Mirror

namespace Flowgraph

def InputSlot.forget (gone : List LinkId) (s : InputSlot) : InputSlot :=
  { s with link := s.link.filter (· ∉ gone) }

def OutputSlot.forget (gone : List LinkId) (s : OutputSlot) : OutputSlot :=
  { s with links := s.links.filter (· ∉ gone) }

/-- A node whose slots record some links no longer. -/
def Node.forget (gone : List LinkId) (n : Node) : Node :=
  { n with inputs := n.inputs.map (.forget gone), outputs := n.outputs.map (.forget gone) }

/-- A graph without some links, in the table and in the slots. -/
def Graph.without (g : Graph) (gone : List LinkId) : Graph :=
  { g with nodes := g.nodes.map (.forget gone), links := gone.foldl SortedMap.erase g.links }

section Slots

variable {gone gone' : List LinkId}

theorem InputSlot.forget_eq_self {s : InputSlot} (kept : ∀ k ∈ gone, s.link ≠ some k) :
    s.forget gone = s := by
  have all : s.link.filter (· ∉ gone) = s.link := by
    apply Option.ext
    intro k
    rw [Option.filter_eq_some_iff]
    refine ⟨And.left, fun recorded => ⟨recorded, ?_⟩⟩
    simpa using fun hk => kept k hk recorded
  rw [forget, all]

theorem OutputSlot.forget_eq_self {s : OutputSlot} (kept : ∀ k ∈ gone, k ∉ s.links) :
    s.forget gone = s := by
  have all : s.links.filter (· ∉ gone) = s.links := by
    rw [List.filter_eq_self]
    intro k recorded
    simpa using fun hk => kept k hk recorded
  rw [forget, all]

theorem InputSlot.drop_eq_forget (k : LinkId) (s : InputSlot) : s.drop k = s.forget [k] := by
  unfold drop
  split
  · next here => simp [forget, here, Option.filter]
  · next other => exact (forget_eq_self (by simpa using other)).symm

theorem OutputSlot.drop_eq_forget (k : LinkId) (s : OutputSlot) : s.drop k = s.forget [k] := by
  simp only [drop, forget, bne, List.mem_singleton, decide_not]
  rfl

theorem InputSlot.forget_forget (s : InputSlot) :
    (s.forget gone).forget gone' = s.forget (gone ++ gone') := by
  simp only [forget, Option.filter_filter, List.mem_append, not_or, Bool.decide_and]

theorem OutputSlot.forget_forget (s : OutputSlot) :
    (s.forget gone).forget gone' = s.forget (gone ++ gone') := by
  simp only [forget, List.filter_filter, List.mem_append, not_or, Bool.decide_and, Bool.and_comm]

theorem Node.forget_forget (n : Node) :
    (n.forget gone).forget gone' = n.forget (gone ++ gone') := by
  have inputs (s : InputSlot) : (s.forget gone).forget gone' = s.forget (gone ++ gone') :=
    s.forget_forget
  have outputs (s : OutputSlot) : (s.forget gone).forget gone' = s.forget (gone ++ gone') :=
    s.forget_forget
  simp only [forget, List.map_map, Function.comp_def, inputs, outputs]

theorem Node.forget_nil (n : Node) : n.forget [] = n := by
  have inputs (s : InputSlot) : s.forget [] = s := s.forget_eq_self nofun
  have outputs (s : OutputSlot) : s.forget [] = s := s.forget_eq_self nofun
  rw [forget, List.map_id'' inputs, List.map_id'' outputs]

theorem map_eq_modify {α : Type} {xs : List α} {i : Nat} {f : α → α} (here : Prop) [Decidable here]
    (others : ∀ j x, xs[j]? = some x → ¬(here ∧ j = i) → f x = x) :
    xs.map f = if here then xs.modify i f else xs := by
  apply List.ext_getElem?
  intro j
  rw [List.getElem?_map]
  split
  · next yes =>
    rw [List.getElem?_modify]
    cases at_ : xs[j]? with
    | none => rfl
    | some x =>
      by_cases same : i = j
      · simp [same]
      · simp [same, others j x at_ fun there => same there.2.symm]
  · next no =>
    cases at_ : xs[j]? with
    | none => rfl
    | some x => simp [others j x at_ fun there => no there.1]

end Slots

namespace Graph

variable {g g' : Graph} {id : NodeId} {k : LinkId}

/-- Where the index finds just the nodes, a change of the node that is found under an id is a change
of the node with that id. -/
theorem modifyNode_eq
    (indexed : ∀ id i, g.index.find? id = some i ↔ g.nodes[i]?.map (·.id) = some id) (id : NodeId)
    (f : Node → Node) :
    g.modifyNode id f = { g with nodes := g.nodes.map fun n => if n.id = id then f n else n } := by
  unfold modifyNode
  split
  · next i found =>
    congr 1
    apply List.ext_getElem?
    intro j
    rw [List.getElem?_modify, List.getElem?_map]
    cases at_ : g.nodes[j]? with
    | none => rfl
    | some n =>
      have same : i = j ↔ n.id = id := by
        have here := indexed id j
        rw [at_, found, Option.map_some, Option.some.injEq, Option.some.injEq] at here
        exact here
      simp only [same, Option.map_eq_map, Option.map_some]
  · next absent =>
    have others : ∀ n ∈ g.nodes, (if n.id = id then f n else n) = n := by
      intro n hn
      obtain ⟨i, hi⟩ := List.mem_iff_getElem?.1 hn
      apply if_neg
      rintro rfl
      cases absent.symm.trans ((indexed n.id i).2 (by rw [hi, Option.map_some]))
    rw [List.map_congr_left others, List.map_id']

/-- A change of one output slot and one input slot changes no node but those of the slots. -/
theorem modifyEnds_eq
    (indexed : ∀ id i, g.index.find? id = some i ↔ g.nodes[i]?.map (·.id) = some id)
    (origin target : NodeId) (originSlot targetSlot : Nat) (e : OutputSlot → OutputSlot)
    (e' : InputSlot → InputSlot) :
    (g.modifyOutput origin originSlot e).modifyInput target targetSlot e' =
      { g with
        nodes := g.nodes.map fun n => { n with
          outputs := if n.id = origin then n.outputs.modify originSlot e else n.outputs
          inputs := if n.id = target then n.inputs.modify targetSlot e' else n.inputs } } := by
  rw [modifyInput, modifyNode_eq, modifyOutput, modifyNode_eq indexed]
  · dsimp only
    rw [List.map_map]
    congr 1
    apply List.map_congr_left
    intro n _
    simp only [Function.comp_apply]
    split <;> split <;> rfl
  · intro id i
    have ids : (g.modifyOutput origin originSlot e).nodes.map (·.id) = g.nodes.map (·.id) :=
      (modifyOutput_thinner g origin originSlot e).ids
    rw [← List.getElem?_map, ids, List.getElem?_map, modifyOutput, modifyNode_index]
    exact indexed id i

theorem find?_erases (gone : List LinkId) (t : LinkTable) (k : LinkId) :
    (gone.foldl SortedMap.erase t).find? k = if k ∈ gone then none else t.find? k := by
  induction gone generalizing t with
  | nil => simp
  | cons k' gone ih =>
    rw [List.foldl_cons, ih, SortedMap.find?_erase]
    by_cases later : k ∈ gone
    · simp [later]
    · simp [later]

theorem link?_without (g : Graph) (gone : List LinkId) (k : LinkId) :
    (g.without gone).link? k = if k ∈ gone then none else g.link? k :=
  find?_erases gone g.links k

theorem without_nil (g : Graph) : g.without [] = g := by
  rw [without, List.map_id'' Node.forget_nil]
  rfl

theorem without_without (g : Graph) (gone gone' : List LinkId) :
    (g.without gone).without gone' = g.without (gone ++ gone') := by
  simp only [without, List.map_map, List.foldl_append]
  congr 1
  exact List.map_congr_left fun n _ => n.forget_forget

section Records

variable {n : Node} {i : Nat}

theorem into_eq_link (found : g.node? id = some n) {s : InputSlot} (at_ : n.inputs[i]? = some s) :
    g.into id i = s.link := by
  rw [into, input, found, Option.bind_some, at_]
  rfl

theorem outOf_eq_links (found : g.node? id = some n) {s : OutputSlot}
    (at_ : n.outputs[i]? = some s) : g.outOf id i = s.links := by
  rw [outOf, output, found, Option.bind_some, at_]
  rfl

theorem Consistent.input_link_iff (c : g.Consistent) (hn : n ∈ g.nodes) {s : InputSlot}
    (at_ : n.inputs[i]? = some s) :
    s.link = some k ↔ ∃ l, g.link? k = some l ∧ l.target = n.id ∧ l.targetSlot = i := by
  have found := c.node?_eq_some_iff.2 ⟨hn, rfl⟩
  rw [← into_eq_link found at_, c.agrees.into_iff]
  rfl

theorem Consistent.mem_output_links_iff (c : g.Consistent) (hn : n ∈ g.nodes) {s : OutputSlot}
    (at_ : n.outputs[i]? = some s) :
    k ∈ s.links ↔ ∃ l, g.link? k = some l ∧ l.origin = n.id ∧ l.originSlot = i := by
  have found := c.node?_eq_some_iff.2 ⟨hn, rfl⟩
  rw [← outOf_eq_links found at_, c.agrees.mem_outOf_iff]
  rfl

theorem Consistent.inputs_forget (c : g.Consistent) (hn : n ∈ g.nodes) {l : Link}
    (found : g.link? k = some l) : n.inputs.map (.forget [k]) =
      if n.id = l.target then n.inputs.modify l.targetSlot (.drop k) else n.inputs := by
  rw [funext (InputSlot.drop_eq_forget k)]
  apply map_eq_modify
  intro j s at_ away
  apply s.forget_eq_self
  intro k' hk' recorded
  rw [List.mem_singleton.1 hk'] at recorded
  obtain ⟨l', found', target, slot⟩ := (c.input_link_iff hn at_).1 recorded
  cases found.symm.trans found'
  exact away ⟨target.symm, slot.symm⟩

theorem Consistent.outputs_forget (c : g.Consistent) (hn : n ∈ g.nodes) {l : Link}
    (found : g.link? k = some l) : n.outputs.map (.forget [k]) =
      if n.id = l.origin then n.outputs.modify l.originSlot (.drop k) else n.outputs := by
  rw [funext (OutputSlot.drop_eq_forget k)]
  apply map_eq_modify
  intro j s at_ away
  apply s.forget_eq_self
  intro k' hk' recorded
  rw [List.mem_singleton.1 hk'] at recorded
  obtain ⟨l', found', origin, slot⟩ := (c.mem_output_links_iff hn at_).1 recorded
  cases found.symm.trans found'
  exact away ⟨origin.symm, slot.symm⟩

end Records

theorem Consistent.detachLink (c : g.Consistent) (k : LinkId) : (g.detachLink k).1.Consistent :=
  (c.toSound.thinner (detachLink_thinner g k)).consistent (c.agrees.detachLink c.toSound k)

theorem Consistent.detachLink_eq_without (c : g.Consistent) {l : Link}
    (found : g.link? k = some l) : g.detachLink k = (g.without [k], some l) := by
  have nodes : g.nodes.map (.forget [k]) = g.nodes.map fun n => { n with
      outputs := if n.id = l.origin then n.outputs.modify l.originSlot (.drop k) else n.outputs
      inputs := if n.id = l.target then n.inputs.modify l.targetSlot (.drop k) else n.inputs } := by
    apply List.map_congr_left
    intro n hn
    rw [Node.forget, c.inputs_forget hn found, c.outputs_forget hn found]
  unfold Graph.detachLink
  rw [found]
  dsimp only
  rw [modifyEnds_eq (g := { g with links := g.links.erase k }) c.indexed, without, nodes]
  rfl

theorem Consistent.detachAll_eq_without (c : g.Consistent) {gone : List LinkId}
    (distinct : gone.Nodup) (listed : ∀ k ∈ gone, ∃ l, g.link? k = some l) :
    gone.foldl (fun g k => (g.detachLink k).1) g = g.without gone := by
  induction gone generalizing g with
  | nil => exact (without_nil g).symm
  | cons k gone ih =>
    obtain ⟨new, distinct⟩ := List.nodup_cons.1 distinct
    obtain ⟨l, found⟩ := listed k List.mem_cons_self
    have detached := c.detachLink k
    rw [List.foldl_cons]
    rw [c.detachLink_eq_without found] at detached ⊢
    rw [ih detached distinct, without_without]
    · rfl
    · intro k' hk'
      obtain ⟨l', found'⟩ := listed k' (List.mem_cons_of_mem _ hk')
      refine ⟨l', ?_⟩
      rw [link?_without, if_neg]
      · exact found'
      · rw [List.mem_singleton]
        rintro rfl
        exact new hk'

end Graph

end Flowgraph
