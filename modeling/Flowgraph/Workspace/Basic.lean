import Flowgraph.Backend.Peer
import Flowgraph.Clock
import Flowgraph.Intervention.Control
import Flowgraph.Plan.Compile
import Flowgraph.Snapshot.Import
import Flowgraph.Workspace.Starter

namespace Flowgraph

open Json

/-- A workspace. -/
structure Workspace where
  settings : Settings
  account : Account
  remote : Backend
  control : Control := {}
  registry : ExtensionRegistry := {}
  queue : Queue := {}
  channel : Channel := {}
  /-- Whether the workflow is saved and the socket looked after from time to time. -/
  running : Bool := false
  /-- What plugins were told, in order. -/
  told : List ImportNotice := []

namespace Workspace

def create (settings : Settings) (storage : Storage) (remote : Backend)
    (registry : ExtensionRegistry) : Workspace where
  settings := settings
  account := { storage := storage, key := settings.session? }
  remote := remote
  registry := registry

def graph (w : Workspace) : Graph := w.control.scene.graph

def canvas (w : Workspace) : Canvas := w.control.scene.canvas

def paused (w : Workspace) : Bool := w.control.scene.paused

def onScene (w : Workspace) (f : Scene → Scene) : Workspace :=
  { w with control := { w.control with scene := f w.control.scene } }

def onGraph (w : Workspace) (f : Graph → Graph) : Workspace :=
  w.onScene fun s => { s with graph := f s.graph }

def onCanvas (w : Workspace) (f : Canvas → Canvas) : Workspace :=
  w.onScene fun s => { s with canvas := f s.canvas }

def address (w : Workspace) : String := trimSlashes w.settings.baseUrl

def socketAddress (w : Workspace) : String := w.settings.socketUrl

def ask (w : Workspace) (c : Clock) (r : Request) : Workspace × Except Failure Value :=
  let (account, headers) := w.account.headers c.seconds
  let (remote, reply) := w.remote.exchange r headers
  let (account, outcome) := account.receive reply
  ({ w with account := account, remote := remote }, outcome)

def submit (w : Workspace) (c : Clock) (plan : String) : Workspace × Except Failure Value :=
  match Request.ofPlan plan with
  | .error f => (w, .error f)
  | .ok r => w.ask c r

def register (w : Workspace) (descriptors : Value) : Workspace × Except Failure Unit :=
  match w.registry.load descriptors with
  | .error e => (w, .error (.graph e))
  | .ok r => ({ w with registry := r }, .ok ())

/-- Asks for the extensions of the backend and registers them. -/
def loadExtensions (w : Workspace) (c : Clock) : Workspace × Except Failure Unit :=
  match w.ask c .extensions with
  | (w, .error f) => (w, .error f)
  | (w, .ok v) => w.register v

/-- Puts a snapshot in place of the graph and tells the user which types are missing. If it cannot
be imported everything stays as it is. -/
def load (w : Workspace) (s : Snapshot) : Workspace × Except GraphError Import :=
  match s.load w.registry with
  | .error e => (w, .error e)
  | .ok i =>
    let w := w.onGraph fun _ => i.graph
    let w := match missingTypesNotice? i.missing with
      | some notice => w.onCanvas (·.inform notice)
      | none => w
    ({ w.onCanvas (·.redraw) with told := w.told ++ i.notices }, .ok i)

def snapshot (w : Workspace) : Snapshot := w.graph.serialize

def save (w : Workspace) : Workspace × Except Failure Unit :=
  match w.account.storage.set workflowKey w.snapshot.toText with
  | .error f => (w, .error f)
  | .ok storage => ({ w with account := { w.account with storage := storage } }, .ok ())

/-- The stored snapshot, or why there is none to load. -/
def stored (w : Workspace) : Except Failure Snapshot := do
  match ← w.account.storage.get? workflowKey with
  | none => .error (.graph .noSavedWorkflow)
  | some text => (Snapshot.ofText? text).elim (.error (.graph .malformed)) .ok

/-- Loads the starter workflow; answers the missing types. -/
def loadStarter (w : Workspace) : Workspace × List String :=
  match w.load starterWorkflow with
  | (w, .ok i) => (w, i.missing)
  | (w, .error _) => ((w.onGraph fun _ => .empty).onCanvas (·.redraw), [])

/-- What the user is told when the stored workflow cannot be loaded. -/
def fallbackNotice (f : Failure) : String := "Loading default workflow due to: " ++ f.message

/-- Tells the user why the stored workflow cannot be loaded and loads the starter workflow. -/
def fallBack (w : Workspace) (f : Failure) : Workspace × List String :=
  (w.onCanvas (·.inform (fallbackNotice f))).loadStarter

/-- Loads the stored workflow, or else the starter workflow; answers the missing types. -/
def restore (w : Workspace) : Workspace × List String :=
  match w.stored with
  | .error f => w.fallBack f
  | .ok s =>
    match w.load s with
    | (w, .ok i) => (w, i.missing)
    | (w, .error e) => w.fallBack (.graph e)

def dispatch (c : Clock) (w : Workspace) (i : Queue.Item) : Workspace × Queue.Event :=
  let (w, result) := w.submit c i.body
  (w, { result := result })

/-- Compiles the graph and queues copies of the plan. -/
def enqueue (w : Workspace) (c : Clock) (batch : Nat) : Workspace × Queue.Called :=
  let (w, d, called) := w.queue.enqueueWith w.graph.compile batch c.moment (dispatch c) w 0
  ({ w with queue := d.queue }, called)

/-- Gives a command to the backend, unless a control refused it. -/
def give (w : Workspace) (c : Clock) (r : Control × Except GraphError Command) :
    Workspace × Except Failure Value :=
  let w := { w with control := r.1 }
  match r.2 with
  | .error e => (w, .error (.graph e))
  | .ok command => w.ask c (.control command)

/-- Switches an intervention at the selected nodes, or everywhere. -/
def toggle (w : Workspace) (c : Clock) (k : Intervention) (all : Bool) :
    Workspace × Except Failure Value :=
  w.give c (w.control.toggle k all)

/-- Lets the selected nodes go on for a step. -/
def step (w : Workspace) (c : Clock) : Workspace × Except Failure Value :=
  w.give c w.control.step

/-- What the main action did. -/
inductive Primary where
  | stepped (outcome : Except Failure Value)
  | queued (called : Queue.Called)

/-- The main action: a step while a breakpoint holds the run, else a run. -/
def primary (w : Workspace) (c : Clock) : Workspace × Primary :=
  if w.paused then
    let (w, outcome) := w.step c
    (w, .stepped outcome)
  else
    let (w, called) := w.enqueue c 1
    (w, .queued called)

/-- Takes a frame in; one that is malformed changes nothing. -/
def receive (w : Workspace) (c : Clock) (frame : String) : Workspace :=
  match w.control.scene.applyText c.timestamp frame with
  | .ok (s, _) => w.onScene fun _ => s
  | .error _ => w

/-- Frames do not reach further than the control. -/
theorem receiveAll_eq (w : Workspace) (c : Clock) (frames : List String) :
    ∃ control, frames.foldl (·.receive c ·) w = { w with control := control } := by
  induction frames generalizing w with
  | nil => exact ⟨w.control, rfl⟩
  | cons frame frames ih =>
    have first : ∃ control, w.receive c frame = { w with control := control } := by
      unfold receive
      split
      · exact ⟨_, rfl⟩
      · exact ⟨w.control, rfl⟩
    obtain ⟨control, first⟩ := first
    rw [List.foldl_cons, first]
    exact ih { w with control := control }

def follow (w : Workspace) (c : Clock) : Handshake → Workspace
  | .accepted frames kept =>
    let w := frames.foldl (·.receive c ·) w
    if kept then w else { w with channel := w.channel.hangUp }
  | _ => w

def connect (w : Workspace) (c : Clock) : Workspace × Except Failure Bool :=
  let (account, means) := w.account.means c.seconds w.socketAddress
  let (channel, prepared) := w.channel.prepare means
  let w := { w with account := account, channel := channel }
  match prepared with
  | .error f => (w, .error f)
  | .ok none => (w, .ok false)
  | .ok (some offer) =>
    let (remote, handshake) := w.remote.shakeHands offer
    let (channel, outcome) := w.channel.settle handshake
    (({ w with remote := remote, channel := channel } : Workspace).follow c handshake, outcome)

def canConnect (w : Workspace) (c : Clock) : Workspace × Bool :=
  let (account, can) := w.account.canConnect c.seconds
  ({ w with account := account }, can)

/-- Looks after the socket: connects if it is not open and there is something to connect with. -/
def tend (w : Workspace) (c : Clock) : Workspace :=
  if w.channel.ready = .open then w
  else match w.canConnect c with
    | (w, false) => w
    | (w, true) => (w.connect c).1

def close (w : Workspace) : Workspace := { w with channel := w.channel.close }

/-- Loads the extensions and the workflow, opens the socket, and from then on saves the workflow
and looks after the socket from time to time. -/
def start (w : Workspace) (c : Clock) : Workspace :=
  let w := (w.loadExtensions c).1
  let w := w.restore.1
  { (w.connect c).1 with running := true }

/-- What happens from time to time while the workspace runs. -/
def tick (w : Workspace) (c : Clock) : Workspace :=
  if w.running then (w.save.1).tend c else w

/-- Ends the running tasks, closes the socket and saves once more. -/
def shutdown (w : Workspace) : Workspace := (({ w with running := false }).close.save).1

end Workspace

end Flowgraph
