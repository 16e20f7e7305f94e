namespace Flowgraph

/-- A way to intervene in a run at a node. -/
inductive Intervention where
  | breakpoint
  | stop
  | restart
deriving DecidableEq, Repr, Inhabited

namespace Intervention

def all : List Intervention := [.breakpoint, .stop, .restart]

def name : Intervention → String
  | .breakpoint => "breakpoint"
  | .stop => "stop"
  | .restart => "restart"

/-- The path to which nodes with an intervention are posted. -/
def endpoint : Intervention → String
  | .breakpoint => "/interventions/breakpoints"
  | .stop => "/interventions/stop-points"
  | .restart => "/interventions/restart-points"

/-- The member of a request that extends it to all nodes. -/
def allFlag : Intervention → String
  | .breakpoint => "all_break"
  | .stop => "all_stop"
  | .restart => "all_restart"

def color : Intervention → String
  | .breakpoint => "#141414"
  | .stop => "#3d1414"
  | .restart => "#14283d"

/-- Reads the name of a kind, in ASCII letters of either case; answers the name in lower case if
no kind has it. -/
def ofName (s : String) : Except String Intervention :=
  let name := String.ofList (s.toList.map Char.toLower)
  if name = "breakpoint" ∨ name = "break" then .ok .breakpoint
  else if name = "stop" then .ok .stop
  else if name = "restart" then .ok .restart
  else .error name

def unknownMessage (name : String) : String := "unknown intervention kind: " ++ name

end Intervention

end Flowgraph
