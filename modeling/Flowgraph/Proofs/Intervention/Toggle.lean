import Flowgraph.Intervention.Control
import Flowgraph.Proofs.Realtime.Reported

namespace Flowgraph

namespace InterventionSets

variable (s : InterventionSets) (k k' : Intervention) (checksum checksum' : String)

theorem family_withFamily (f : SortedMap String IdSet) :
    (s.withFamily k f).family k' = if k' = k then f else s.family k' := by
  cases k <;> cases k' <;> rfl

theorem get_withFamily_insert (set : IdSet) :
    (s.withFamily k ((s.family k).insert checksum set)).get k' checksum' =
      if k' = k ∧ checksum' = checksum then set else s.get k' checksum' := by
  rw [get, family_withFamily, get]
  by_cases kind : k' = k
  · subst kind
    rw [if_pos rfl, SortedMap.find?_insert]
    by_cases text : checksum' = checksum <;> simp [text]
  · rw [if_neg kind, if_neg fun both => kind both.1]

theorem contains_toggle (id id' : NodeId) :
    (s.toggle k checksum id).1.contains k' checksum' id' =
      (s.contains k' checksum' id' ^^ decide (k' = k ∧ checksum' = checksum ∧ id' = id)) := by
  rw [contains, toggle, get_withFamily_insert, contains]
  by_cases here : k' = k ∧ checksum' = checksum
  · obtain ⟨rfl, rfl⟩ := here
    rw [if_pos ⟨rfl, rfl⟩]
    cases isIn : (s.get k' checksum').contains id with
    | true =>
      by_cases same : id' = id
      · simp [SortedMap.contains_erase, same, isIn]
      · simp [SortedMap.contains_erase, same]
    | false =>
      by_cases same : id' = id
      · simp [IdSet.add, SortedMap.contains_insert, same, isIn]
      · simp [IdSet.add, SortedMap.contains_insert, same]
  · have elsewhere : ¬(k' = k ∧ checksum' = checksum ∧ id' = id) :=
      fun all => here ⟨all.1, all.2.1⟩
    rw [if_neg here, decide_eq_false elsewhere, Bool.xor_false]

theorem nodeIds_eq : s.nodeIds k checksum = (s.get k checksum).ids.map toString := by
  simp only [nodeIds, Json.ofList_integerText]

theorem mem_ids_iff {id : NodeId} :
    id ∈ (s.get k checksum).ids ↔ s.contains k checksum id = true :=
  SortedMap.mem_keys_iff

end InterventionSets

theorem Graph.ReportedAt.hasNode {ids : List NodeId} {g g' : Graph} (r : g.ReportedAt ids g')
    (id : NodeId) : g'.hasNode id = g.hasNode id := by
  rw [Graph.hasNode, Graph.hasNode, r.index]

namespace Control

variable (k k' : Intervention) (checksum checksum' : String) (c : Control) (n : NodeId)

theorem reportedAt_toggleNode {ids : List NodeId} {id : NodeId} (hid : id ∈ ids) :
    c.scene.graph.ReportedAt ids (toggleNode k checksum c id).scene.graph := by
  unfold toggleNode
  split
  · apply Graph.ReportedAt.modifyNode hid
    intro n
    split
    · exact n.reported_switchColors _
    · exact n.reported_restoreColors true
  · exact .refl ids _

theorem contains_toggleNode (id : NodeId) :
    (toggleNode k checksum c id).sets.contains k' checksum' n = (c.sets.contains k' checksum' n ^^
      decide (k' = k ∧ checksum' = checksum ∧ n = id ∧ c.scene.graph.hasNode n = true)) := by
  unfold toggleNode
  split
  · next known =>
    have switched := c.sets.contains_toggle k k' checksum checksum' id n
    by_cases same : n = id
    · subst same
      simpa [known] using switched
    · simpa [same] using switched
  · next unknown =>
    have absent : ¬(k' = k ∧ checksum' = checksum ∧ n = id ∧ c.scene.graph.hasNode n = true) := by
      rintro ⟨_, _, rfl, known⟩
      exact unknown known
    rw [decide_eq_false absent, Bool.xor_false]

variable {ids : List NodeId}

theorem reportedAt_toggleNodes {all : List NodeId} (sub : ids ⊆ all) :
    c.scene.graph.ReportedAt all (ids.foldl (toggleNode k checksum) c).scene.graph := by
  induction ids generalizing c with
  | nil => exact .refl all _
  | cons id rest ih =>
    obtain ⟨hid, others⟩ := List.cons_subset.1 sub
    exact (reportedAt_toggleNode k checksum c hid).trans (ih _ others)

theorem contains_toggleNodes (distinct : ids.Nodup) :
    (ids.foldl (toggleNode k checksum) c).sets.contains k' checksum' n =
      (c.sets.contains k' checksum' n ^^
        decide (k' = k ∧ checksum' = checksum ∧ n ∈ ids ∧ c.scene.graph.hasNode n = true)) := by
  induction ids generalizing c with
  | nil => simp
  | cons id rest ih =>
    obtain ⟨new, distinct⟩ := List.nodup_cons.1 distinct
    have has := (reportedAt_toggleNode k checksum c (List.mem_singleton_self id)).hasNode n
    rw [List.foldl_cons, ih _ distinct, contains_toggleNode, has]
    by_cases same : n = id
    · subst same
      simp [new]
    · simp [same]

theorem reportedAt_toggle (all : Bool) :
    c.scene.graph.ReportedAt c.selection (c.toggle k all).1.scene.graph := by
  unfold toggle
  dsimp only
  split
  · exact .refl _ _
  · split
    · exact .refl _ _
    · exact reportedAt_toggleNodes k c.checksum c (List.Subset.refl _)

/-- A toggle switches the selected nodes that the graph has, in the set of its kind and of the
present checksum. -/
theorem contains_toggle : (c.toggle k false).1.sets.contains k' checksum' n =
    (c.sets.contains k' checksum' n ^^ decide (k' = k ∧ checksum' = c.checksum ∧
      n ∈ c.selection ∧ c.scene.graph.hasNode n = true)) := by
  unfold toggle
  dsimp only
  rw [if_neg Bool.false_ne_true]
  split
  · next none =>
    have empty : c.selection = [] := List.isEmpty_iff.1 none
    simp [empty, refuse, onCanvas]
  · exact contains_toggleNodes k k' c.checksum checksum' c n (SortedMap.nodup_keys _)

theorem toggle_of_selected (selected : c.selection ≠ []) : (c.toggle k false).2 =
    .ok (.intervene k c.checksum ((c.toggle k false).1.sets.nodeIds k c.checksum) false) := by
  have some : ¬c.selection.isEmpty = true := mt List.isEmpty_iff.1 selected
  simp only [toggle, if_neg Bool.false_ne_true, if_neg some]
  rfl

theorem toggle_of_unselected (unselected : c.selection = []) : c.toggle k false = c.refuse := by
  unfold toggle
  rw [unselected]
  rfl

theorem step_sets : c.step.1.sets = c.sets := by
  unfold step
  split <;> rfl

theorem step_graph : c.step.1.scene.graph = c.scene.graph := by
  unfold step
  split <;> rfl

end Control

end Flowgraph
