import Flowgraph.Proofs.Json.Printer
import Flowgraph.Proofs.Sorting
import Flowgraph.Snapshot.Checksum
import Mathlib.Data.List.Basic

namespace Flowgraph

open Json

theorem Link.encode_injective : Function.Injective Link.encode := by
  rintro ⟨⟩ ⟨⟩ same
  simpa [Link.encode, Value.ofInt, Int.natCast_inj] using same

/-- What the checksum covers of a node. -/
def NodeRecord.stub (n : NodeRecord) : NodeId × String := (n.id, n.type)

theorem sortById_eq_sortBy (ns : List NodeRecord) : sortById ns = sortBy (·.id) ns := rfl

namespace Snapshot

variable {s s' : Snapshot}

def stubs (s : Snapshot) : List (NodeId × String) := (sortById s.nodes).map NodeRecord.stub

theorem stubs_eq_sortBy (s : Snapshot) :
    s.stubs = sortBy Prod.fst (s.nodes.map NodeRecord.stub) := by
  rw [stubs, sortById_eq_sortBy]
  exact map_sortBy (·.id) Prod.fst NodeRecord.stub (fun _ => rfl) s.nodes

def stubValue (p : NodeId × String) : Value :=
  .object [("id", .ofInt p.1), ("type", .string p.2)]

theorem structureValue_eq (s : Snapshot) : s.structureValue =
    .object [("last_node_id", .ofInt s.lastNode), ("last_link_id", .ofInt s.lastLink),
      ("links", .array (s.links.map Link.encode)), ("groups", .array s.groups),
      ("nodes", .array (s.stubs.map stubValue))] := by
  rw [structureValue, stubs, List.map_map]
  rfl

theorem stubValue_injective : Function.Injective stubValue := by
  rintro ⟨id, type⟩ ⟨id', type'⟩ same
  simpa [stubValue, Value.ofInt] using same

/-- The checksum covers the counters, the links, the groups and the stubs, and nothing else. -/
theorem structureValue_eq_iff : s.structureValue = s'.structureValue ↔
    s.lastNode = s'.lastNode ∧ s.lastLink = s'.lastLink ∧ s.links = s'.links ∧
      s.groups = s'.groups ∧ s.stubs = s'.stubs := by
  have stubs : s.stubs.map stubValue = s'.stubs.map stubValue ↔ s.stubs = s'.stubs :=
    (List.map_injective_iff.2 stubValue_injective).eq_iff
  have links : s.links.map Link.encode = s'.links.map Link.encode ↔ s.links = s'.links :=
    (List.map_injective_iff.2 Link.encode_injective).eq_iff
  simp [structureValue_eq, Value.ofInt, stubs, links]

theorem structuralChecksum_congr (same : s.structureValue = s'.structureValue) :
    s.structuralChecksum = s'.structuralChecksum := by
  rw [structuralChecksum, structuralChecksum, same]

/-- The text that a checksum is taken of tells the ids and types of the nodes, even if it does not
tell the doubles of links and groups apart. -/
theorem stubs_of_text (same : s.structureValue.compact = s'.structureValue.compact) :
    s.stubs = s'.stubs := by
  have kept (ps : List (NodeId × String)) :
      Value.mapItems Value.spelling (ps.map stubValue) = ps.map stubValue := by
    induction ps with
    | nil => rfl
    | cons p ps ih => exact congrArg (stubValue p :: ·) ih
  have values := Value.mapFloats_eq_of_compact same
  rw [structureValue_eq, structureValue_eq] at values
  simp only [Value.mapFloats, Value.mapMembers, kept, Value.object.injEq, List.cons.injEq,
    Prod.mk.injEq, true_and, Value.array.injEq, and_true] at values
  exact List.map_injective_iff.2 stubValue_injective values.2.2.2.2

end Snapshot

theorem Graph.serialize_checksum (g : Graph) :
    g.serialize.checksum = g.toSnapshot.structuralChecksum := rfl

theorem sortById_sortById (ns : List NodeRecord) : sortById (sortById ns) = sortById ns :=
  sortBy_of_ascending (sortBy_ascending _ ns)

theorem Graph.stubs_toSnapshot (g : Graph) :
    g.toSnapshot.stubs = sortBy Prod.fst (g.nodes.map fun n => (n.id, n.type)) := by
  have sorted : g.toSnapshot.stubs = (sortById (g.nodes.map Node.toRecord)).map NodeRecord.stub :=
    congrArg (List.map NodeRecord.stub) (sortById_sortById _)
  have swap := map_sortBy (·.id) Prod.fst NodeRecord.stub (fun _ => rfl) (g.nodes.map Node.toRecord)
  rw [sorted, sortById_eq_sortBy, swap, List.map_map]
  rfl

end Flowgraph
