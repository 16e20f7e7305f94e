import Flowgraph.Snapshot.Checksum

namespace Flowgraph

open Json

/-- A node of a plan. -/
structure PlanNode where
  /-- Values and references to other nodes, by the name of the input. -/
  inputs : Members
  type : String
  name : String
deriving Inhabited, Repr

abbrev Prompt := SortedMap NodeId PlanNode

/-- A plan with the workflow it was compiled from. -/
structure ExecutionPlan where
  prompt : Prompt
  workflow : Snapshot
  checksum : String
  /-- The id under which the plan is queued. -/
  promptId : Option String := none

namespace PlanNode

def encode (n : PlanNode) : Value :=
  .object [("inputs", .object n.inputs), ("type", .string n.type), ("name", .string n.name)]

def decode? (d : Document) : Option PlanNode := do
  let fs ← d.record? ["inputs", "type", "name"]
  some {
    inputs := ← fs.required "inputs" Document.object?
    type := ← fs.required "type" Document.string?
    name := ← fs.required "name" Document.string? }

end PlanNode

namespace Prompt

/-- The nodes of a plan as an object, with the ids as keys. -/
def encode (p : Prompt) : Value :=
  .object (p.entries.map fun (id, n) => (String.ofList (integerText id), n.encode))

/-- Reads an id written as a key: the number literal of a word of 64 bits, without escapes. -/
def keyId? (k : Key) : Option NodeId := do
  if !k.plain then none
  let (l, rest) ← (match k.text.toList with
    | '-' :: cs => Reader.literal true cs
    | cs => Reader.literal false cs).toOption
  if !rest.isEmpty then none
  (Document.number (← l.value?)).word?

/-- Reads the nodes of a plan; of two entries for one id the later counts. -/
def decode? (d : Document) : Option Prompt := do
  let es ← (← d.fields?).mapM fun (k, d) => do some (← keyId? k, ← PlanNode.decode? d)
  some (.ofList es)

end Prompt

namespace ExecutionPlan

def encode (p : ExecutionPlan) : Value :=
  .object ([("prompt", p.prompt.encode), ("workflow", p.workflow.encode),
    ("checksum", .string p.checksum)] ++ presentMember "promptId" p.promptId)

def decode? (d : Document) : Option ExecutionPlan := do
  let fs ← d.record? ["prompt", "workflow", "checksum", "promptId"]
  some {
    prompt := ← fs.required "prompt" Prompt.decode?
    workflow := ← fs.required "workflow" Snapshot.decode?
    checksum := ← fs.required "checksum" Document.string?
    promptId := ← fs.optional "promptId" Document.string? }

def toText (p : ExecutionPlan) : String := p.encode.compact

def ofText? (text : String) : Option ExecutionPlan := (Document.ofText? text).bind decode?

end ExecutionPlan

/-- What the checksum of a plan covers, as a value. -/
def planValue (p : Prompt) (workflowChecksum : String) : Value :=
  .object [("prompt", p.encode), ("workflow", .string workflowChecksum)]

/-- The checksum of the nodes of a plan and of the checksum of its workflow. -/
def planChecksum (p : Prompt) (workflowChecksum : String) : String :=
  Digest.ofText (planValue p workflowChecksum).compact

end Flowgraph
