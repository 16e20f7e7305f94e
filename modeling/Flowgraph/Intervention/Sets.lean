import Flowgraph.Canvas
import Flowgraph.Intervention.Kind
import Flowgraph.Json.Number

namespace Flowgraph

/-- Sets of nodes by the checksum of their workflow, one family for each kind. -/
structure InterventionSets where
  breakpoints : SortedMap String IdSet := .empty
  stops : SortedMap String IdSet := .empty
  restarts : SortedMap String IdSet := .empty
deriving Inhabited

namespace InterventionSets

def family (s : InterventionSets) : Intervention → SortedMap String IdSet
  | .breakpoint => s.breakpoints
  | .stop => s.stops
  | .restart => s.restarts

def withFamily (s : InterventionSets) (k : Intervention) (f : SortedMap String IdSet) :
    InterventionSets :=
  match k with
  | .breakpoint => { s with breakpoints := f }
  | .stop => { s with stops := f }
  | .restart => { s with restarts := f }

def get (s : InterventionSets) (k : Intervention) (checksum : String) : IdSet :=
  ((s.family k).find? checksum).getD .empty

def contains (s : InterventionSets) (k : Intervention) (checksum : String) (id : NodeId) : Bool :=
  (s.get k checksum).contains id

/-- Takes a node in or out; answers whether it is in afterwards. -/
def toggle (s : InterventionSets) (k : Intervention) (checksum : String) (id : NodeId) :
    InterventionSets × Bool :=
  let set := s.get k checksum
  let isIn := !set.contains id
  let set := if isIn then set.add id else set.erase id
  (s.withFamily k ((s.family k).insert checksum set), isIn)

/-- The nodes of a kind in a workflow as a backend is told of them: decimal, ascending. -/
def nodeIds (s : InterventionSets) (k : Intervention) (checksum : String) : List String :=
  (s.get k checksum).ids.map fun id => String.ofList (Json.integerText id)

end InterventionSets

end Flowgraph
