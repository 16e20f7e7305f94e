import Flowgraph.Proofs.Graph.Mirror

namespace Flowgraph

/-- Every link is recorded in the input slot where it ends and listed in the output slot where it
starts, and only links are recorded, each at its ends. Links may be listed repeatedly. -/
structure Attached (nodes : List Wiring) (links : List Link) : Prop where
  fed : ∀ l ∈ links, ∃ w ∈ nodes, w.node = l.target ∧ w.into l.targetSlot = some l.id
  listed : ∀ l ∈ links, ∃ w ∈ nodes, w.node = l.origin ∧ l.id ∈ w.outOf l.originSlot
  of_fed : ∀ w ∈ nodes, ∀ slot id, w.into slot = some id →
    ∃ l ∈ links, l.id = id ∧ l.target = w.node ∧ l.targetSlot = slot
  of_listed : ∀ w ∈ nodes, ∀ slot, ∀ id ∈ w.outOf slot,
    ∃ l ∈ links, l.id = id ∧ l.origin = w.node ∧ l.originSlot = slot

def Graph.Attached (g : Graph) : Prop :=
  Flowgraph.Attached (g.nodes.map Node.wiring) g.links.values

def Snapshot.Attached (s : Snapshot) : Prop :=
  Flowgraph.Attached (s.nodes.map NodeRecord.wiring) s.links

theorem Attached.congr_links {nodes : List Wiring} {links links' : List Link}
    (a : Attached nodes links) (same : ∀ l, l ∈ links' ↔ l ∈ links) : Attached nodes links' where
  fed l hl := a.fed l ((same l).1 hl)
  listed l hl := a.listed l ((same l).1 hl)
  of_fed w hw slot id recorded := by
    obtain ⟨l, hl, rest⟩ := a.of_fed w hw slot id recorded
    exact ⟨l, (same l).2 hl, rest⟩
  of_listed w hw slot id recorded := by
    obtain ⟨l, hl, rest⟩ := a.of_listed w hw slot id recorded
    exact ⟨l, (same l).2 hl, rest⟩

namespace Graph

variable {s : Snapshot} {types : TypeRegistry} {g : Graph}

theorem Attached.into_fed (a : g.Attached) (h : g.Sound) : g.Fed := ⟨h, h.into_iff a.fed a.of_fed⟩

theorem attached_iff_of_ofSnapshot (described : types.Described) (ok : ofSnapshot s types = .ok g) :
    g.Attached ↔ s.Attached := by
  unfold Graph.Attached Snapshot.Attached
  rw [wiring_ofSnapshot described ok]
  have same := mem_values_ofSnapshot ok
  exact ⟨fun a => a.congr_links fun l => (same l).symm, fun a => a.congr_links same⟩

/-- A graph that is read has links in agreement with its slots exactly if the snapshot has. Then an
input slot yields only links that end there, no two links end at one slot, and whatever edits come
first, a connection gets a free id and leaves all other input slots with their links. -/
theorem attached_as_stored (described : types.Described) (ok : ofSnapshot s types = .ok g) :
    (g.Attached ↔ s.Attached) ∧ (s.Attached →
      (∀ id slot l, g.inputLink? id slot = some l → l.target = id ∧ l.targetSlot = slot) ∧
      (∀ k k' l l', g.link? k = some l → g.link? k' = some l' → l.target = l'.target →
        l.targetSlot = l'.targetSlot → k = k') ∧
      ∀ g', Later (fun _ op => op.AddsBare) g g' →
        ∀ o os t ts g'' id, g'.connect o os t ts = some (.ok (g'', id)) →
          (∃ l, l.id = id ∧ g''.inputLink? t ts = some l) ∧
          (∀ n i, ¬(n = t ∧ i = ts) → g''.inputLink? n i = g'.inputLink? n i) ∧
          (g'.disconnectInput t ts).1.link? id = none) := by
  have stored := attached_iff_of_ofSnapshot described ok
  refine ⟨stored, fun attached => ?_⟩
  obtain ⟨_, _, sound, bounded⟩ := ofSnapshot_ok ok
  have fed : g.Fed := (stored.2 attached).into_fed sound
  refine ⟨?_, ?_, ?_⟩
  · exact fun id slot l found => (fed.inputLink?_eq_some_iff.1 found).2
  · exact fun k k' l l' found found' target slot => fed.link_unique found found' target slot
  · intro g' later o os t ts g'' id joins
    obtain ⟨fed', bounded'⟩ := later.fed fed bounded
    obtain ⟨made, kept⟩ := fed'.inputLink?_connect bounded' joins
    exact ⟨made, kept, bounded'.connect_free joins⟩

/-- A stored link, listed twice, stays with its slot when others are made. -/
theorem attached_despite_repetition :
    let source : NodeRecord := {
      id := 1, type := "Source", outputs := [{ name := "out", links := [5, 5] }] }
    let sink : NodeRecord := {
      id := 2, type := "Sink", inputs := [{ name := "a", link := some 5 }, { name := "b" }] }
    let stored : Snapshot := { nodes := [source, sink], links := [⟨5, 1, 0, 2, 0, .null⟩] }
    ∃ g g' g'', ofSnapshot stored .empty = .ok g ∧ stored.Attached ∧ g.Attached ∧
      g.run [.connect 1 0 2 1] = some g' ∧ g'.connect 1 0 2 1 = some (.ok (g'', 7)) ∧
      g''.inputLink? 2 0 = g'.inputLink? 2 0 := by
  intro source sink stored
  let g := (Graph.empty.run [.configure stored .empty]).get (by decide)
  let g' := (g.run [.connect 1 0 2 1]).get (by decide)
  have fed (slot : Nat) (k : LinkId) : sink.wiring.into slot = some k ↔ slot = 0 ∧ k = 5 := by
    rcases slot with _ | _ | slot <;> simp [sink, NodeRecord.wiring, eq_comm]
  have listed (slot : Nat) : source.wiring.outOf slot = if slot = 0 then [5, 5] else [] := by
    rcases slot with _ | slot <;> simp [source, NodeRecord.wiring]
  have unfed (slot : Nat) : source.wiring.into slot = none := rfl
  have unlisted (slot : Nat) : sink.wiring.outOf slot = [] := rfl
  have node : source.wiring.node = 1 ∧ sink.wiring.node = 2 := ⟨rfl, rfl⟩
  have attached : stored.Attached := by
    constructor <;> simp [stored, fed, listed, unfed, unlisted, node]
  have ok : ofSnapshot stored .empty = .ok g := rfl
  have connected : g.run [.connect 1 0 2 1] = some g' := (Option.some_get _).symm
  have later : Later (fun _ op => op.AddsBare) g g' :=
    .of_run .refl (by simp [Operation.AddsBare, Replaces]) connected
  obtain ⟨same, follows⟩ := attached_as_stored .empty ok
  have numbered : (g'.connect 1 0 2 1).map (·.toOption.map (·.2)) = some (some 7) := by decide
  obtain ⟨answer, joins, eq⟩ := Option.map_eq_some_iff.1 numbered
  obtain ⟨⟨g'', _⟩, made, rfl⟩ := Option.map_eq_some_iff.1 eq
  obtain rfl : answer = .ok (g'', 7) := by
    cases answer <;> cases made
    rfl
  obtain ⟨_, keeps, _⟩ := (follows attached).2.2 g' later 1 0 2 1 g'' 7 joins
  exact ⟨g, g', g'', ok, attached, same.2 attached, connected, joins, keeps 2 0 (by decide)⟩

/-- A stored slot may record a number that no link has. It is bound once another connection gets
the number. -/
theorem not_attached_with_dangling_record :
    let source : NodeRecord := { id := 1, type := "Source", outputs := [{ name := "out" }] }
    let sink : NodeRecord := {
      id := 2, type := "Sink", inputs := [{ name := "in", link := some 1 }] }
    let other : NodeRecord := { id := 3, type := "Sink", inputs := [{ name := "in" }] }
    let stored : Snapshot := { nodes := [source, sink, other] }
    ∃ g g', ofSnapshot stored .empty = .ok g ∧ ¬g.Attached ∧ g.inputLink? 2 0 = none ∧
      g.connect 1 0 3 0 = some (.ok (g', 1)) ∧ (g'.inputLink? 2 0).map (·.target) = some 3 := by
  intro source sink other stored
  refine ⟨_, _, rfl, fun a => ?_, rfl, rfl, rfl⟩
  have recorded : sink.wiring.into 0 = some 1 := rfl
  have dangling := (attached_iff_of_ofSnapshot (s := stored) .empty rfl).1 a
  obtain ⟨l, hl, _⟩ := dangling.of_fed sink.wiring (by simp [stored]) 0 1 recorded
  cases hl

end Graph

end Flowgraph
