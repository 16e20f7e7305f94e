import Flowgraph.Graph.Order
import Flowgraph.Plan.Basic
import Flowgraph.Text

namespace Flowgraph

open Json

namespace Graph

/-- A reference to the node that produces an input. -/
def originReference (l : Link) : Value :=
  .object [("originId", .string (String.ofList (integerText l.origin)))]

def widgetInputs (n : Node) : Members :=
  (n.widgets.filter (·.compiled)).map fun w => (w.name, w.value)

def linkInputs (g : Graph) (n : Node) : Members :=
  (n.inputs.zipIdx.filterMap fun (s, i) =>
    (g.inputLink? n.id i).map fun l => (s.name, originReference l))

def planNode (g : Graph) (n : Node) : PlanNode where
  inputs := Members.ofList (widgetInputs n ++ g.linkInputs n)
  type := n.type
  name := sanitize n.title

/-- The entry of a node that is to run. -/
def planEntry? (g : Graph) (id : NodeId) : Option (NodeId × PlanNode) := do
  let n ← g.node? id
  if n.mode = .never then none else some (id, g.planNode n)

/-- The nodes that are to run, in execution order. -/
def prompt (g : Graph) : Prompt := .ofList (g.executionOrder.filterMap g.planEntry?)

def compile (g : Graph) : ExecutionPlan :=
  let workflow := g.serialize
  { prompt := g.prompt
    workflow := workflow
    checksum := planChecksum g.prompt workflow.checksum }

end Graph

end Flowgraph
