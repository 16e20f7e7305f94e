import Flowgraph.Graph.Link
import Flowgraph.Json.Reader
import Flowgraph.Json.Record

namespace Flowgraph

open Json

/-- What a frame reports. -/
structure FrameData where
  breakpoint : Option Value := none
  nodeErrors : Option Value := none
  evaluationAction : Option Value := none
  results : Option Members := none
  promptId : Option Value := none
  number : Option Value := none
deriving Inhabited, Repr

/-- A frame. -/
structure Frame where
  type : Option String := none
  data : Option FrameData := none
deriving Inhabited, Repr

namespace FrameData

def decode? (d : Document) : Option FrameData := do
  let fs ← d.record? ["breakpoint", "node_errors", "evaluation_action", "results", "prompt_id",
    "number"]
  some {
    breakpoint := ← fs.optional "breakpoint" Document.value?
    nodeErrors := ← fs.optional "node_errors" Document.value?
    evaluationAction := ← fs.optional "evaluation_action" Document.value?
    results := ← fs.optional "results" Document.object?
    promptId := ← fs.optional "prompt_id" Document.value?
    number := ← fs.optional "number" Document.value? }

end FrameData

namespace Frame

def decode? (d : Document) : Option Frame := do
  let fs ← d.record? ["type", "data"]
  some {
    type := ← fs.optional "type" Document.string?
    data := ← fs.optional "data" FrameData.decode? }

def ofText? (text : String) : Option Frame := (Document.ofText? text).bind decode?

end Frame

/-- Reads a decimal id: a sign or none, and digits alone. -/
def parseId? (s : String) : Option NodeId := do
  let (negative, digits) := match s.toList with
    | '-' :: rest => (true, rest)
    | '+' :: rest => (false, rest)
    | cs => (false, cs)
  if digits.isEmpty ∨ !digits.all Reader.isDigit then none
  let n : Nat := digits.foldl (fun n c => n * 10 + (c.toNat - '0'.toNat)) 0
  let id : Int := if negative then -n else n
  if minId ≤ id ∧ id ≤ maxId then some id else none

/-- The id that a value denotes: a whole number, or a string that spells one. -/
def nodeIdOf? : Value → Option NodeId
  | .number (.int n) => if minId ≤ n ∧ n ≤ maxId then some n else none
  | .string s => parseId? s
  | _ => none

/-- Whether a value is more than nothing: not null, false, zero or empty. -/
def isPresent : Value → Bool
  | .null => false
  | .bool b => b
  | .number (.int n) => n ≠ 0
  | .number (.float bits) => bits.toNat % 0x8000000000000000 ≠ 0
  | .string s => s ≠ ""
  | .array items => !items.isEmpty
  | .object members => !members.isEmpty

namespace FrameData

/-- The node at whose breakpoint the run is held. -/
def pausedNode? (d : FrameData) : Option NodeId :=
  (d.breakpoint.filter isPresent).bind nodeIdOf?

def evaluatedNode? (d : FrameData) : Option NodeId :=
  (d.evaluationAction.bind (·.get? "node_id")).bind nodeIdOf?

/-- The errors of the node that is being evaluated. -/
def errors? (d : FrameData) : Option Value := d.nodeErrors.filter isPresent

/-- The node that an entry of the results belongs to, by the entry or else by its key. -/
def resultNode? (key : String) (result : Value) : Option NodeId :=
  ((result.get? "node_id").bind nodeIdOf?).or (parseId? key)

end FrameData

end Flowgraph
