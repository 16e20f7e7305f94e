import Flowgraph.Digest.Base64
import Flowgraph.Snapshot.Codec

namespace Flowgraph

open Json

namespace Snapshot

/-- What a checksum covers, as a value. -/
def structureValue (s : Snapshot) : Value :=
  .object [("last_node_id", .ofInt s.lastNode), ("last_link_id", .ofInt s.lastLink),
    ("links", .array (s.links.map Link.encode)), ("groups", .array s.groups),
    ("nodes", .array ((sortById s.nodes).map fun n =>
      .object [("id", .ofInt n.id), ("type", .string n.type)]))]

def structuralChecksum (s : Snapshot) : String := Digest.ofText s.structureValue.compact

end Snapshot

def version : String := "0.1.0"

/-- The snapshot of a graph with its checksum and the version. -/
def Graph.serialize (g : Graph) : Snapshot :=
  let s := g.toSnapshot
  { s with checksum := s.structuralChecksum, version := version }

end Flowgraph
