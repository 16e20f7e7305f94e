import Flowgraph.Graph.Link
import Flowgraph.Json.Printer

namespace Flowgraph

open Json

/-- The kinds of failure. -/
inductive GraphError.Kind where
  /-- An edit or a document that would break the structure of a graph. -/
  | validation
  /-- A snapshot that does not describe a graph. -/
  | configuration
  /-- A limit of identifiers. -/
  | invariant
  | nodeNotFound
  | noSelection
  /-- Text that is not JSON or does not have the required shape. -/
  | serialization
deriving DecidableEq, Repr

/-- The words that open a message of a kind. -/
def GraphError.Kind.heading : GraphError.Kind → String
  | .validation => "Graph validation error: "
  | .configuration => "Configuration error: "
  | .invariant => "Invariant violated: "
  | .nodeNotFound => "Node not found: "
  | .noSelection => "No nodes selected"
  | .serialization => "Serialization error: "

/-- Why an operation failed. -/
inductive GraphError where
  | noOutputSlot (node : NodeId) (slot : Nat)
  | noInputSlot (node : NodeId) (slot : Nat)
  | nodeNotFound (node : NodeId)
  | duplicateNode (node : NodeId)
  | duplicateLink (link : LinkId)
  /-- A link of a snapshot whose ends are not slots of its nodes. -/
  | danglingLink (link : Link)
  | noSavedWorkflow
  /-- Extension descriptors that are neither an object nor null. -/
  | descriptorsNotObject (got : Value)
  | negativeTimestamp (now : Int)
  | timestampTooLarge
  | suffixExhausted
  | noSelection
  | malformed
deriving Repr

namespace GraphError

def kind : GraphError → Kind
  | .noOutputSlot .. | .noInputSlot .. | .descriptorsNotObject .. => .validation
  | .nodeNotFound .. => .nodeNotFound
  | .duplicateNode .. | .duplicateLink .. | .danglingLink .. | .noSavedWorkflow => .configuration
  | .negativeTimestamp .. | .timestampTooLarge | .suffixExhausted => .invariant
  | .noSelection => .noSelection
  | .malformed => .serialization

def detail : GraphError → String
  | .noOutputSlot node slot => s!"node {node} has no output slot {slot}"
  | .noInputSlot node slot => s!"node {node} has no input slot {slot}"
  | .nodeNotFound node => s!"{node}"
  | .duplicateNode node => s!"duplicate node id {node}"
  | .duplicateLink link => s!"duplicate link id {link}"
  | .danglingLink l =>
    s!"link {l.id} connects {l.origin}:{l.originSlot} to {l.target}:{l.targetSlot} " ++
      "which do not exist"
  | .noSavedWorkflow => "no saved workflow"
  | .descriptorsNotObject got => "extension descriptors must be an object, got " ++ got.compact
  | .negativeTimestamp now => s!"negative timestamp {now} cannot be encoded"
  | .timestampTooLarge => "timestamp does not fit in 8 characters"
  | .suffixExhausted => "random suffix exhausted within one millisecond"
  | .noSelection => ""
  | .malformed => ""

def message (e : GraphError) : String := e.kind.heading ++ e.detail

end GraphError

end Flowgraph
