import Flowgraph.Proofs.Graph.Configure

namespace Flowgraph

namespace Graph

variable {g g' : Graph} {op : Operation}

def HasRoom (g : Graph) : Prop := g.lastNode < maxId ∧ g.lastLink < maxId

/-- What a graph keeps throughout: its structure is sound and its counters cover its ids. -/
structure WellFormed (g : Graph) : Prop extends Sound g, Bounded g

theorem Anchored.apply (a : g.Anchored) (done : g.apply op = some g') : g'.Anchored := by
  apply apply_cases done a
  case reported => exact fun g id f reports a => a.thinner (KeepsSlots.thinner reports.keepsSlots)
  case edited => exact fun id e _ => a.thinner (KeepsSlots.thinner e.keepsSlots)
  case added => exact fun n id _ ok => a.addNode ok
  case removed => exact a.removeNode
  case connected => exact fun o os t ts id _ ok => a.connect ok
  case disconnected => exact fun t slot => a.thinner (disconnectInput_thinner g t slot)
  case cleared => exact fun _ => Sound.empty.anchored
  case grouped => exact fun group => ⟨a.placed, a.listed, a.keyed, a.leaves, a.enters⟩
  case configured => exact fun s types g' _ ok => (ofSnapshot_ok ok).2.2.1.anchored
  case loaded => exact fun s r g' _ ok => (ofSnapshot_ok ok).2.2.1.anchored

theorem Bounded.apply (b : g.Bounded) (done : g.apply op = some g') : g'.Bounded := by
  apply apply_cases done b
  case reported => exact fun g id f reports b => b.thinner (KeepsSlots.thinner reports.keepsSlots)
  case edited => exact fun id e _ => b.thinner (KeepsSlots.thinner e.keepsSlots)
  case added => exact fun n id _ ok => b.addNode ok
  case removed => exact b.removeNode
  case connected => exact fun o os t ts id _ ok => b.connect ok
  case disconnected => exact fun t slot => b.thinner (disconnectInput_thinner g t slot)
  case cleared => exact fun _ => Bounded.empty
  case grouped => exact fun group => ⟨b.nodes, b.links⟩
  case configured => exact fun s types g' _ ok => (ofSnapshot_ok ok).2.2.2
  case loaded => exact fun s r g' _ ok => (ofSnapshot_ok ok).2.2.2

/-- Soundness alone is not kept: it takes counters that cover the ids to add nodes under new
ones. -/
theorem Sound.apply (h : g.Sound) (b : g.Bounded) (done : g.apply op = some g') : g'.Sound := by
  apply (h.anchored.apply done).sound
  apply apply_cases (P := fun g => (g.nodes.map (·.id)).Nodup) done h.distinct
  case reported =>
    intro g id f reports distinct
    rwa [(KeepsSlots.thinner reports.keepsSlots).ids]
  case edited =>
    intro id e _
    rw [(KeepsSlots.thinner e.keepsSlots).ids]
    exact h.distinct
  case added =>
    intro n id _ ok
    rw [(addNode_ok ok).1]
    exact (h.push (b.addNode_free h ok) _).distinct
  case removed => exact fun id => h.distinct.sublist (removeNode_sublist g id)
  case connected => exact fun o os t ts id _ ok => (h.connect ok).distinct
  case disconnected => exact fun t slot => (h.thinner (disconnectInput_thinner g t slot)).distinct
  case cleared => exact fun _ => .nil
  case grouped => exact fun _ => h.distinct
  case configured => exact fun s types g' _ ok => (ofSnapshot_ok ok).2.2.1.distinct
  case loaded => exact fun s r g' _ ok => (ofSnapshot_ok ok).2.2.1.distinct

theorem WellFormed.apply (h : g.WellFormed) (done : g.apply op = some g') : g'.WellFormed :=
  ⟨h.toSound.apply h.toBounded done, h.toBounded.apply done⟩

theorem WellFormed.empty : Graph.empty.WellFormed := ⟨Sound.empty, Bounded.empty⟩

theorem WellFormed.of_ofSnapshot {s : Snapshot} {types : TypeRegistry}
    (ok : ofSnapshot s types = .ok g) : g.WellFormed :=
  ⟨(ofSnapshot_ok ok).2.2.1, (ofSnapshot_ok ok).2.2.2⟩

theorem WellFormed.of_reachable {allowed : Graph → Operation → Prop} (h : Reachable allowed g) :
    g.WellFormed :=
  h.invariant (P := WellFormed) .empty fun _ _ _ _ done h => h.apply done

/-- No operation stops the program while the counters have room. -/
theorem HasRoom.exists_apply (room : g.HasRoom) (op : Operation) : ∃ g', g.apply op = some g' := by
  rw [← Option.isSome_iff_exists]
  cases op with
  | addNode n =>
    rw [apply, Option.isSome_map, ← Option.ne_none_iff_isSome]
    exact fun stopped => Int.not_le.2 room.1 (addNode_eq_none_iff.1 stopped).2
  | connect o os t ts =>
    rw [apply, Option.isSome_map]
    cases typed : g.linkType o os t ts with
    | error e => simp [connect_of_linkType_error typed]
    | ok type =>
      obtain ⟨spent, _⟩ | ⟨_, g', ok⟩ := connect_of_linkType_ok typed
      · exact absurd room.2 (Int.not_lt.2 spent)
      · simp [ok]
  | _ => rfl

/-- Whatever a graph has gone through, in any order and with any snapshots and frames, it is well
formed, and while its counters have room nothing that happens to it stops the program. -/
theorem Reachable.wellFormed {allowed : Graph → Operation → Prop} (h : Reachable allowed g) :
    g.WellFormed ∧ (g.HasRoom → ∀ op, ∃ g', g.apply op = some g' ∧ g'.WellFormed) := by
  have wellFormed := WellFormed.of_reachable h
  refine ⟨wellFormed, fun room op => ?_⟩
  obtain ⟨g', done⟩ := room.exists_apply op
  exact ⟨g', done, wellFormed.apply done⟩

/-- A source is connected twice to a sink, removed, and makes way for a stored graph with negative
ids. -/
theorem wellFormed_after_reload :
    let source : Node := { type := "Source", outputs := [{ name := "out" }] }
    let sink : Node := { type := "Sink", inputs := [{ name := "a" }, { name := "b" }] }
    let loop : NodeRecord := {
      id := -3
      type := "Loop"
      inputs := [{ name := "in", link := some (-1) }]
      outputs := [{ name := "out", links := [-1] }] }
    let stored : Snapshot := { nodes := [loop], links := [⟨-1, -3, 0, -3, 0, .null⟩] }
    ∃ g, Graph.empty.run [.addNode source, .addNode sink, .connect 1 0 2 1, .connect 1 0 2 1,
        .removeNode 1, .configure stored .empty, .addNode sink] = some g ∧
      g.nodes.map (·.id) = [-3, 1] ∧ g.WellFormed ∧
      ∃ g', g.apply (.connect (-3) 0 1 1) = some g' ∧ g'.WellFormed := by
  intro source sink loop stored
  have counted : (Graph.empty.run [.addNode source, .addNode sink, .connect 1 0 2 1,
      .connect 1 0 2 1, .removeNode 1, .configure stored .empty, .addNode sink]).map
        (fun g => (g.nodes.map (·.id), g.lastNode, g.lastLink)) = some ([-3, 1], 1, 0) := by decide
  obtain ⟨g, ran, eq⟩ := Option.map_eq_some_iff.1 counted
  simp only [Prod.mk.injEq] at eq
  obtain ⟨ids, lastNode, lastLink⟩ := eq
  have reachable : Reachable (fun _ _ => True) g :=
    .of_run .empty (fun _ _ _ => trivial) ran
  have room : g.HasRoom := by
    rw [HasRoom, lastNode, lastLink]
    decide
  obtain ⟨wellFormed, goesOn⟩ := reachable.wellFormed
  exact ⟨g, ran, ids, wellFormed, goesOn room _⟩

/-- Neither counter of a graph is behind that of another. -/
structure Outcounts (g' g : Graph) : Prop where
  node : g.lastNode ≤ g'.lastNode
  link : g.lastLink ≤ g'.lastLink

theorem Outcounts.refl (g : Graph) : Outcounts g g := ⟨Int.le_refl _, Int.le_refl _⟩

theorem Outcounts.trans {g'' : Graph} (h' : Outcounts g'' g') (h : Outcounts g' g) :
    Outcounts g'' g :=
  ⟨Int.le_trans h.node h'.node, Int.le_trans h.link h'.link⟩

theorem Thinner.outcounts (t : Thinner g' g) : Outcounts g' g :=
  ⟨Int.le_of_eq t.lastNode.symm, Int.le_of_eq t.lastLink.symm⟩

theorem outcounts_apply (stays : ¬Replaces op) (done : g.apply op = some g') :
    Outcounts g' g := by
  apply apply_cases_of_stays (P := fun g' => Outcounts g' g) stays done (Outcounts.refl g)
  case reported =>
    exact fun g' id f reports kept => (KeepsSlots.thinner reports.keepsSlots).outcounts.trans kept
  case edited => exact fun id e _ => (KeepsSlots.thinner e.keepsSlots).outcounts
  case added =>
    intro n id _ ok
    rw [(addNode_ok ok).1]
    exact ⟨Int.le_max_left _ _, Int.le_refl _⟩
  case removed =>
    intro id
    cases at_ : g.index.find? id with
    | none =>
      rw [removeNode_of_absent at_]
      exact .refl g
    | some i =>
      rw [removeNode_eq_drop at_]
      have kept := (isolate_thinner g id).outcounts
      exact ⟨kept.node, kept.link⟩
  case connected =>
    intro o os t ts id _ ok
    obtain ⟨_, _, rfl, _, rfl⟩ := connect_ok ok
    have kept := (disconnectInput_thinner g t ts).outcounts
    exact (join_thinner _ _).outcounts.trans ⟨kept.node, Int.le_of_lt (Int.lt_succ _)⟩
  case disconnected => exact fun t slot => (disconnectInput_thinner g t slot).outcounts
  case grouped => exact fun group => ⟨Int.le_refl _, Int.le_refl _⟩

theorem WellFormed.later {allowed : Graph → Operation → Prop} (h : g.WellFormed)
    (later : Later allowed g g') : g'.WellFormed ∧ Outcounts g' g := by
  induction later with
  | refl => exact ⟨h, .refl g⟩
  | step _ _ stays done ih => exact ⟨ih.1.apply done, (outcounts_apply stays done).trans ih.2⟩

/-- A well formed graph whose counters are not negative. -/
structure Countable (g : Graph) : Prop extends WellFormed g where
  lastNode : 0 ≤ g.lastNode
  lastLink : 0 ≤ g.lastLink

theorem Countable.empty : Graph.empty.Countable := ⟨.empty, Int.le_refl 0, Int.le_refl 0⟩

theorem Countable.of_ofSnapshot {s : Snapshot} {types : TypeRegistry}
    (ok : ofSnapshot s types = .ok g) : g.Countable := by
  obtain ⟨_, lastNode, lastLink, _⟩ := ofSnapshot_rest ok
  have up (ids : List Int) : 0 ≤ ids.foldl max 0 := (foldl_max_le_iff.1 (Int.le_refl _)).1
  refine ⟨.of_ofSnapshot ok, ?_, ?_⟩
  · rw [lastNode]
    exact Int.le_trans (up _) (Int.le_max_left _ _)
  · rw [lastLink]
    exact Int.le_trans (up _) (Int.le_max_left _ _)

theorem Countable.apply (c : g.Countable) (done : g.apply op = some g') : g'.Countable := by
  by_cases replaces : Replaces op
  · rcases apply_of_replaces replaces done with rfl | ⟨stored, types, ok⟩
    · exact .empty
    · exact .of_ofSnapshot ok
  · have up := outcounts_apply replaces done
    have wellFormed := c.toWellFormed.apply done
    exact ⟨wellFormed, Int.le_trans c.lastNode up.node, Int.le_trans c.lastLink up.link⟩

theorem Countable.of_reachable {allowed : Graph → Operation → Prop} (h : Reachable allowed g) :
    g.Countable :=
  h.invariant (P := Countable) .empty fun _ _ _ _ done c => c.apply done

end Graph

end Flowgraph
