import Flowgraph.Proofs.Graph.Feed

namespace Flowgraph.Graph

variable {g g' g₀ s : Graph} {op : Operation} {allowed : Graph → Operation → Prop}

/-- The graph is empty, or has just been put in the place of another. -/
def Begins (g : Graph) : Prop :=
  g = .empty ∨ ∃ (before : Graph) (op : Operation), Replaces op ∧ before.apply op = some g

theorem WellFormed.of_begins (start : s.Begins) : s.WellFormed := by
  rcases start with rfl | ⟨before, op, replaces, done⟩
  · exact .empty
  · rcases apply_of_replaces replaces done with rfl | ⟨stored, types, ok⟩
    · exact .empty
    · exact .of_ofSnapshot ok

/-- An id that is counted up to, is still a word of 64 bits, and is larger than the ids in use and
the earlier ones. -/
structure Fresh (id last : Int) (used earlier : List Int) : Prop where
  counted : id = last + 1
  word : id ≤ maxId
  unused : ∀ k ∈ used, k < id
  unseen : ∀ k ∈ earlier, k < id

theorem Fresh.of_covered {last : Int} {used earlier : List Int} (room : last < maxId)
    (covers : ∀ k ∈ used, k ≤ last) (covered : ∀ k ∈ earlier, k ≤ last) :
    Fresh (last + 1) last used earlier where
  counted := rfl
  word := room
  unused k hk := Int.lt_add_one_of_le (covers k hk)
  unseen k hk := Int.lt_add_one_of_le (covered k hk)

def nodeIds (g : Graph) : List NodeId := g.nodes.map (·.id)

def linkIds (g : Graph) : List LinkId := g.links.values.map (·.id)

theorem WellFormed.nodeIds_le (h : g.WellFormed) {k : NodeId} (hk : k ∈ g.nodeIds) :
    k ≤ g.lastNode := by
  obtain ⟨n, hn, rfl⟩ := List.mem_map.1 hk
  exact h.nodes n hn

theorem WellFormed.linkIds_le (h : g.WellFormed) {k : LinkId} (hk : k ∈ g.linkIds) :
    k ≤ g.lastLink := by
  obtain ⟨l, hl, rfl⟩ := List.mem_map.1 hk
  exact h.links l.id l (h.toSound.mem_values_iff.1 hl)

theorem mem_linkIds_join (g : Graph) (l : Link) : l.id ∈ (g.join l).linkIds := by
  have stored : (g.join l).links.find? l.id = some l := by rw [join_find?, if_pos rfl]
  exact List.mem_map.2 ⟨l, SortedMap.mem_values_iff.2 ⟨l.id, stored⟩, rfl⟩

theorem linkType_of_slots {o t : NodeId} {os ts : Nat} (leaves : (g.output o os).isSome)
    (enters : (g.input t ts).isSome) : ∃ type, g.linkType o os t ts = .ok type := by
  obtain ⟨out, found⟩ := Option.isSome_iff_exists.1 leaves
  obtain ⟨n, origin, out_⟩ := Option.bind_eq_some_iff.1 found
  obtain ⟨s, found'⟩ := Option.isSome_iff_exists.1 enters
  obtain ⟨m, target, in_⟩ := Option.bind_eq_some_iff.1 found'
  have fits : ts < m.inputs.length := (List.getElem?_eq_some_iff.1 in_).1
  exact ⟨out.type, linkType_eq_ok_iff.2 ⟨n, out, m, origin, out_, target, fits, rfl⟩⟩

/-- An added node takes no entry of the index over. -/
theorem WellFormed.find?_addNode (h : g.WellFormed) {n : Node} {id k : NodeId} {i : Nat}
    (added : g.addNode n = some (g', id)) (found : g.index.find? k = some i) :
    g'.index.find? k = some i := by
  have free := h.toBounded.addNode_free h.toSound added
  rw [(addNode_ok added).1, push, SortedMap.find?_insert, if_neg]
  · exact found
  · rintro rfl
    rw [hasNode, SortedMap.contains, found] at free
    cases free

/-- Since the graph was last cleared or read, a node without an id of its own and a link between
slots that exist get fresh ids, or the program stops because the counter is at its end. Ids that
were handed out or in use before are those of an earlier graph. -/
theorem Begins.hands_out_fresh (start : s.Begins) (before : Later allowed s g₀)
    (since : Later allowed g₀ g) :
    (∀ n : Node, n.id ≤ 0 ∨ g.hasNode n.id = true →
      (g.addNode n = none ↔ maxId ≤ g.lastNode) ∧
      ∀ g' id, g.addNode n = some (g', id) →
        id ∈ g'.nodeIds ∧ Fresh id g.lastNode g.nodeIds g₀.nodeIds) ∧
    (∀ o os t ts, (g.output o os).isSome → (g.input t ts).isSome →
      (g.connect o os t ts = none ↔ maxId ≤ g.lastLink) ∧
      (∀ e, g.connect o os t ts ≠ some (.error e)) ∧
      ∀ g' id, g.connect o os t ts = some (.ok (g', id)) →
        id ∈ g'.linkIds ∧ Fresh id g.lastLink g.linkIds g₀.linkIds) ∧
    (∀ n g' id, g.addNode n = some (g', id) →
      ∀ k i, g.index.find? k = some i → g'.index.find? k = some i) := by
  obtain ⟨h₀, _⟩ := (WellFormed.of_begins start).later before
  obtain ⟨h, counts⟩ := h₀.later since
  refine ⟨?_, ?_, fun n g' id added k i found => h.find?_addNode added found⟩
  · intro n counted
    refine ⟨addNode_eq_none_iff.trans (and_iff_right counted), fun g' id added => ?_⟩
    obtain ⟨rfl, next, _⟩ := addNode_ok added
    obtain ⟨rfl, room⟩ := next counted
    refine ⟨List.mem_map.2 ⟨_, List.mem_append_right _ (List.mem_singleton_self _), rfl⟩, ?_⟩
    apply Fresh.of_covered room fun k => h.nodeIds_le
    exact fun k hk => Int.le_trans (h₀.nodeIds_le hk) counts.node
  · intro o os t ts leaves enters
    obtain ⟨type, typed⟩ := linkType_of_slots leaves enters
    have answers := connect_of_linkType_ok typed
    refine ⟨⟨fun stopped => ?_, fun spent => ?_⟩, fun e refused => ?_, fun g' id ok => ?_⟩
    · obtain ⟨spent, _⟩ | ⟨_, g', ok⟩ := answers
      · exact spent
      · cases stopped.symm.trans ok
    · obtain ⟨_, stopped⟩ | ⟨room, _⟩ := answers
      · exact stopped
      · exact absurd room (Int.not_lt.2 spent)
    · obtain ⟨_, stopped⟩ | ⟨_, g', ok⟩ := answers
      · cases refused.symm.trans stopped
      · cases refused.symm.trans ok
    · obtain ⟨_, _, rfl, room, rfl⟩ := connect_ok ok
      refine ⟨mem_linkIds_join _ _, ?_⟩
      apply Fresh.of_covered room fun k => h.linkIds_le
      exact fun k hk => Int.le_trans (h₀.linkIds_le hk) counts.link

/-- A stored graph whose counters stop short of the last id loses a node and gets one under an id of
its own; then a node and a link get the last ids, and both are fresh. -/
theorem last_ids_are_fresh :
    let source : NodeRecord := { id := -3, type := "Source", outputs := [{ name := "out" }] }
    let sink : Node := { id := 9, type := "Sink", inputs := [{ name := "in" }] }
    let stored : Snapshot := {
      nodes := [source, { id := 7, type := "Sink" }], lastNode := maxId - 1, lastLink := maxId - 1 }
    ∃ s g₀ g, Graph.empty.run [.configure stored .empty] = some s ∧
      s.run [.addNode sink] = some g₀ ∧ g₀.run [.removeNode 7] = some g ∧
      (∃ g', g.addNode sink = some (g', maxId) ∧
        Fresh maxId g.lastNode g.nodeIds g₀.nodeIds) ∧
      ∃ g', g.connect (-3) 0 9 0 = some (.ok (g', maxId)) ∧
        Fresh maxId g.lastLink g.linkIds g₀.linkIds := by
  intro source sink stored
  let s := (Graph.empty.run [.configure stored .empty]).get (by decide)
  let g₀ := (s.run [.addNode sink]).get (by decide)
  let g := (g₀.run [.removeNode 7]).get (by decide)
  have read : Graph.empty.run [.configure stored .empty] = some s := rfl
  have grown : s.run [.addNode sink] = some g₀ := (Option.some_get _).symm
  have shrunk : g₀.run [.removeNode 7] = some g := (Option.some_get _).symm
  have start : s.Begins := .inr ⟨.empty, .configure stored .empty, ⟨s, rfl⟩, read⟩
  have before : Later (fun _ _ => True) s g₀ := .of_run .refl (by simp [Replaces]) grown
  have since : Later (fun _ _ => True) g₀ g := .of_run .refl (by simp [Replaces]) shrunk
  obtain ⟨nodes, links, _⟩ := start.hands_out_fresh before since
  have added : (g.addNode sink).map (·.2) = some maxId := by decide
  obtain ⟨⟨g', _⟩, ok, rfl⟩ := Option.map_eq_some_iff.1 added
  have node := ((nodes sink (.inr (by decide))).2 g' maxId ok).2
  refine ⟨s, g₀, g, read, grown, shrunk, ⟨g', ok, node⟩, ?_⟩
  obtain ⟨stops, accepts, fresh⟩ := links (-3) 0 9 0 (by decide) (by decide)
  cases made : g.connect (-3) 0 9 0 with
  | none => exact absurd (stops.1 made) (by decide)
  | some answer =>
    cases answer with
    | error e => exact absurd made (accepts e)
    | ok made' =>
      obtain ⟨g', id⟩ := made'
      have link := (fresh g' id made).2
      have last : id = maxId := link.counted.trans (by decide)
      exact ⟨g', by rw [last], last ▸ link⟩

/-- After the last id there is none for another node. -/
theorem no_node_after_last_id :
    let stored : Snapshot := { nodes := [{ id := minId, type := "A" }], lastNode := maxId }
    ∃ s : Graph, s.Begins ∧ ofSnapshot stored .empty = .ok s ∧ s.nodeIds = [minId] ∧
      s.addNode { type := "B" } = none := by
  intro stored
  exact ⟨_, .inr ⟨.empty, .configure stored .empty, ⟨_, rfl⟩, rfl⟩, rfl, rfl, rfl⟩

end Flowgraph.Graph
