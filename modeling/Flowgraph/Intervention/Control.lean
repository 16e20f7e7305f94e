import Flowgraph.Error
import Flowgraph.Intervention.Command
import Flowgraph.Intervention.Sets
import Flowgraph.Realtime.Update
import Flowgraph.Snapshot.Checksum

namespace Flowgraph

/-- A scene with the interventions made in it. -/
structure Control where
  scene : Scene := {}
  sets : InterventionSets := {}
deriving Inhabited

namespace Control

def checksum (c : Control) : String := c.scene.graph.serialize.checksum

/-- The selected nodes, ascending. -/
def selection (c : Control) : List NodeId := c.scene.canvas.selected.ids

def onCanvas (c : Control) (f : Canvas → Canvas) : Control :=
  { c with scene := { c.scene with canvas := f c.scene.canvas } }

/-- Switches an intervention at a node on or off and colours the node to match. A node that is not
there is passed over. -/
def toggleNode (k : Intervention) (checksum : String) (c : Control) (id : NodeId) : Control :=
  if c.scene.graph.hasNode id then
    let (sets, isOn) := c.sets.toggle k checksum id
    let colour (n : Node) : Node :=
      if isOn then n.switchColors ⟨k.color, k.color⟩ else n.restoreColors true
    { scene := { c.scene with graph := c.scene.graph.modifyNode id colour }, sets := sets }
  else c

def refuse (c : Control) : Control × Except GraphError Command :=
  (c.onCanvas (·.inform GraphError.noSelection.message), .error .noSelection)

/-- Switches an intervention at the selected nodes, and asks for all nodes that have it now. With
`all` it asks for every node and leaves everything as it is. -/
def toggle (c : Control) (k : Intervention) (all : Bool) : Control × Except GraphError Command :=
  let checksum := c.checksum
  if all then (c, .ok (.intervene k checksum [] true))
  else if c.selection.isEmpty then c.refuse
  else
    let c := c.selection.foldl (toggleNode k checksum) c
    (c.onCanvas (·.clearSelection.redraw),
      .ok (.intervene k checksum (c.sets.nodeIds k checksum) false))

/-- Lets the selected nodes go on for a step. -/
def step (c : Control) : Control × Except GraphError Command :=
  if c.selection.isEmpty then c.refuse
  else
    (c.onCanvas (·.clearSelection),
      .ok (.step c.checksum (c.selection.map fun id => String.ofList (Json.integerText id))))

end Control

end Flowgraph
