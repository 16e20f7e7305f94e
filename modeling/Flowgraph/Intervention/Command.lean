import Flowgraph.Intervention.Kind
import Flowgraph.Json.Value

namespace Flowgraph

open Json

/-- What a backend is asked to do in the run of a workflow. -/
inductive Command where
  /-- To intervene at these nodes and at no others, or at all nodes. -/
  | intervene (kind : Intervention) (workflow : String) (nodes : List String) (all : Bool)
  /-- To let paused nodes go on for a step. -/
  | step (workflow : String) (nodes : List String)
deriving Repr

namespace Command

def path : Command → String
  | .intervene kind .. => kind.endpoint
  | .step .. => "/interventions/breakpoints/step-through"

/-- The members that say which nodes of which workflow are meant. -/
def target (workflow : String) (nodes : List String) : Members :=
  [("workflow_id", .string workflow), ("node_ids", .array (nodes.map .string))]

def encode : Command → Value
  | .intervene kind workflow nodes all =>
    .object (target workflow nodes ++ [(kind.allFlag, .bool all)])
  | .step workflow nodes => .object (target workflow nodes)

end Command

end Flowgraph
