import Flowgraph.Canvas
import Flowgraph.Error
import Flowgraph.Graph.Basic
import Flowgraph.Realtime.Frame

namespace Flowgraph

open Json

/-- What frames act on. -/
structure Scene where
  graph : Graph := .empty
  canvas : Canvas := {}
  paused : Bool := false
deriving Inhabited

/-- What a frame did. -/
inductive Outcome where
  | paused (node : NodeId)
  | errored (node : NodeId)
  | updated (evaluating : Option NodeId) (results : List NodeId)
  | ignored
deriving DecidableEq, Repr

namespace Node

def markPaused (n : Node) : Node := n.switchColors Palette.paused

def recordErrors (errors : Value) (n : Node) : Node :=
  let properties := Members.put "node_errors" errors n.properties
  { n with properties := properties }.switchColors Palette.failed

/-- The object that an evaluation leaves as a node's result: the present one, if it is an object,
with the time of the evaluation. -/
def stampedResult (now : String) (properties : Members) : Value :=
  let result := match Members.get? "result" properties with
    | some (.object ms) => ms
    | _ => []
  .object (Members.put "timestamp" (.string now) result)

def recordEvaluation (now : String) (action : Value) (n : Node) : Node :=
  let acted := Members.put "evaluation_action" action n.properties
  let properties := Members.put "result" (stampedResult now acted) acted
  { n with properties := properties }.switchColors Palette.evaluating

/-- Records a result of a node, which keeps the time of its evaluation and loses its errors. -/
def recordResult (promptId : Option Value) (result : Value) (n : Node) : Node :=
  let time := ((Members.get? "result" n.properties).bind (·.get? "timestamp")).map
    fun t => ("timestamp", t)
  let stored := [("prompt_id", promptId.getD .null), ("result", result)] ++ time.toList
  let properties := Members.put "result" (.object stored) n.properties
  { n with properties := Members.erase "node_errors" properties }.restoreColors false

end Node

namespace Scene

/-- Changes a node of the scene and brings it to the user's attention. -/
def spotlight (s : Scene) (id : NodeId) (f : Node → Node) : Scene :=
  { s with
    graph := s.graph.modifyNode id f
    canvas := (s.canvas.center id).select id }

/-- A node id, if the graph has that node. -/
def known? (s : Scene) (id : Option NodeId) : Option NodeId := id.filter s.graph.hasNode

/-- Records one entry of the results, with the node it belongs to. -/
def applyResult (promptId : Option Value) (s : Scene × List NodeId) (entry : String × Value) :
    Scene × List NodeId :=
  let (key, result) := entry
  if !isPresent result then s
  else match s.1.known? (FrameData.resultNode? key result) with
    | none => s
    | some id =>
      ({ s.1 with graph := s.1.graph.modifyNode id (Node.recordResult promptId result) },
        s.2 ++ [id])

/-- Applies what a frame reports at a time of day. -/
def applyData (s : Scene) (now : String) (d : FrameData) : Scene × Outcome :=
  match s.known? d.pausedNode? with
  | some id => ({ s.spotlight id Node.markPaused with paused := true }, .paused id)
  | none =>
    let s := { s with paused := false }
    let evaluated := s.known? d.evaluatedNode?
    match d.errors?, evaluated with
    | some errors, some id => (s.spotlight id (Node.recordErrors errors), .errored id)
    | _, _ =>
      let s := match d.evaluationAction, evaluated with
        | some action, some id =>
          { s with graph := s.graph.modifyNode id (Node.recordEvaluation now action) }
        | _, _ => s
      let (s, results) := (d.results.getD []).foldl (applyResult d.promptId) (s, [])
      (s, .updated evaluated results)

def redraw (s : Scene) : Scene := { s with canvas := s.canvas.redraw }

def applyFrame (s : Scene) (now : String) (f : Frame) : Scene × Outcome :=
  let (s, outcome) := match f.data with
    | some d => s.applyData now d
    | none => (s, .ignored)
  (s.redraw, outcome)

/-- Applies the text of a frame; malformed text changes nothing. -/
def applyText (s : Scene) (now : String) (text : String) : Except GraphError (Scene × Outcome) :=
  match Frame.ofText? text with
  | some f => .ok (s.applyFrame now f)
  | none => .error .malformed

end Scene

end Flowgraph
