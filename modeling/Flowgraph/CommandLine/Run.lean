import Flowgraph.CommandLine.Invocation
import Flowgraph.Settings.Load
import Flowgraph.Workspace.Basic

namespace Flowgraph.CommandLine

open Json

/-- What a run sees around it. -/
structure Surroundings where
  home : String
  environment : Settings.Environment
  clock : Clock
  /-- The text of the file at a path. -/
  textAt : String → Option String
  /-- What is stored in a directory. -/
  storageIn : String → Storage
  /-- The backend at an address. -/
  backendAt : String → Backend

/-- Why a run fails. -/
inductive Complaint where
  | unreadableWorkflow (path : String)
  | invalidWorkflow (path : String)
  | unreadableExtensions (path : String)
  /-- Descriptors that are not JSON. -/
  | malformedExtensions (f : Fault) (text : String)
  /-- Neither nodes nor all of them were named. -/
  | noNodes
  /-- A plan that could not be dispatched, and how many were left after it. -/
  | undelivered (id : String) (left : Nat)
  | failed (f : Failure)

def Complaint.message : Complaint → String
  | .unreadableWorkflow path => "Failed to read workflow " ++ path
  | .invalidWorkflow path => "Invalid workflow " ++ path
  | .unreadableExtensions path => "Failed to read extensions " ++ path
  | .malformedExtensions f text => f.message text.toList
  | .noNodes => "Pass --nodes or --all"
  | .undelivered id left => s!"Dispatch of {id} failed; {left} plan(s) left pending"
  | .failed f => f.message

/-- What a run came to. -/
structure Result where
  lines : List String := []
  complaint : Option Complaint := none
  /-- What is stored afterwards, if the run had to do with it. -/
  stored : Option Storage := none

/-- A result without a complaint, or the complaint alone. -/
def Result.of : Except Complaint (List String) → Result
  | .ok lines => { lines := lines }
  | .error c => { complaint := some c }

namespace Surroundings

/-- The files with settings of a user and of a project. -/
def standardFiles (s : Surroundings) : List String :=
  [s.home ++ "/" ++ Settings.standardPath, Settings.standardPath]

/-- The settings of a run. Files that cannot be used leave the built-in ones. -/
def settings (s : Surroundings) (i : Invocation) : Settings :=
  let file (path : String) : Settings.File := (path, s.textAt path)
  let loaded := match i.config with
    | some path => Settings.loadFile s.home s.environment (file path)
    | none => Settings.load s.home s.environment (s.standardFiles.map file)
  (loaded.toOption.getD (.builtIn s.home)).merge { baseUrl := i.url }

def files (s : Surroundings) (i : Invocation) : List String :=
  i.config.elim s.standardFiles ([·]) ++ i.action.files

def workflow (s : Surroundings) (path : String) : Except Complaint Snapshot :=
  match s.textAt path with
  | none => .error (.unreadableWorkflow path)
  | some text => (Snapshot.ofText? text).elim (.error (.invalidWorkflow path)) .ok

/-- Reads extensions from a file, if one is named. -/
def extensions (s : Surroundings) : Option String → Except Complaint ExtensionRegistry
  | none => .ok {}
  | some path =>
    match s.textAt path with
    | none => .error (.unreadableExtensions path)
    | some text =>
      match Value.read text with
      | .error f => .error (.malformedExtensions f text)
      | .ok v => (ExtensionRegistry.load {} v).mapError fun e => .failed (.graph e)

/-- The graph of a workflow without a workspace around it. -/
def offline (w : Snapshot) (r : ExtensionRegistry) : Except Complaint Graph :=
  match w.load r with
  | .ok i => .ok i.graph
  | .error e => .error (.failed (.graph e))

def openWorkspace (s : Surroundings) (settings : Settings) (selected : List NodeId) : Workspace :=
  let w := Workspace.create settings (s.storageIn settings.stateDir)
    (s.backendAt settings.baseUrl) {}
  w.onCanvas fun c => selected.foldl Canvas.select c

/-- Loads a workflow from a file into a workspace, or says why it cannot. -/
def importWorkflow (s : Surroundings) (w : Workspace) (path : String) :
    Workspace × Option Complaint :=
  match s.workflow path with
  | .error c => (w, some c)
  | .ok snapshot =>
    match w.load snapshot with
    | (w, .ok _) => (w, none)
    | (w, .error e) => (w, some (.failed (.graph e)))

/-- Acts in a workspace with the extensions of the backend, as far as they can be had, and a
workflow. -/
def inWorkspace (s : Surroundings) (settings : Settings) (path : String) (selected : List NodeId)
    (act : Workspace → Workspace × Result) : Result :=
  let w := ((s.openWorkspace settings selected).loadExtensions s.clock).1
  let (w, r) := match s.importWorkflow w path with
    | (w, none) => act w
    | (w, some c) => (w, { complaint := some c })
  { r with stored := some w.account.storage }

def answered : Except Failure Value → Result
  | .ok v => { lines := [v.compact] }
  | .error f => { complaint := some (.failed f) }

def report : Queue.Called → Result
  | .deferred _ => {}
  | .failed e => { complaint := some (.failed (.graph e)) }
  | .drained r =>
    { lines := r.responses.entries.map fun (id, v) => id ++ "\t" ++ v.compact
      complaint := r.failed.map fun i => .undelivered i.id r.remaining }

/-- The workspace that is watched: started, with a workflow in place of the stored one if one is
named. -/
def watched (s : Surroundings) (settings : Settings) (path : Option String) :
    Workspace × Option Complaint :=
  let w := (s.openWorkspace settings []).start s.clock
  path.elim (w, none) (s.importWorkflow w)

/-- Does an action to its end. Watching has no end of its own. -/
def perform (s : Surroundings) (settings : Settings) : Action → Result
  | .checksum path => .of do
    let g ← offline (← s.workflow path) {}
    return [g.serialize.checksum]
  | .compile path extensions => .of do
    let w ← s.workflow path
    let g ← offline w (← s.extensions extensions)
    return [g.compile.encode.pretty]
  | .queue path batch =>
    s.inWorkspace settings path [] fun w => (w.enqueue s.clock batch).map id report
  | .intervene kind path nodes all =>
    if !all ∧ nodes.isEmpty then { complaint := some .noNodes }
    else s.inWorkspace settings path nodes fun w => (w.toggle s.clock kind all).map id answered
  | .step path nodes =>
    s.inWorkspace settings path nodes fun w => (w.step s.clock).map id answered
  | .watch path =>
    let (w, complaint) := s.watched settings path
    { complaint := complaint, stored := some w.account.storage }

end Surroundings

end Flowgraph.CommandLine
