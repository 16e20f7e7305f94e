import Flowgraph.CommandLine.Grammar
import Flowgraph.Graph.Link
import Flowgraph.Intervention.Kind
import Flowgraph.Snapshot.Checksum

namespace Flowgraph.CommandLine

/-- What the program is to do. -/
inductive Action where
  | checksum (workflow : String)
  | compile (workflow : String) (extensions : Option String)
  | queue (workflow : String) (batch : Nat)
  | intervene (kind : Intervention) (workflow : String) (nodes : List NodeId) (all : Bool)
  | step (workflow : String) (nodes : List NodeId)
  | watch (workflow : Option String)
deriving Repr

def Action.files : Action → List String
  | .compile workflow extensions => workflow :: extensions.toList
  | .watch workflow => workflow.toList
  | .checksum workflow | .queue workflow _ | .intervene _ workflow _ _ | .step workflow _ =>
    [workflow]

/-- An action with the options that hold for all of them. -/
structure Invocation where
  verbose : Bool
  config : Option String
  url : Option String
  action : Action
deriving Repr

/-- What a command line comes to. -/
inductive Parsed where
  | run (i : Invocation)
  /-- To print these lines. -/
  | print (lines : List String)
  | misuse
deriving Repr

def digits? (cs : List Char) : Option Nat :=
  if cs.isEmpty ∨ !cs.all Char.isDigit then none
  else some (cs.foldl (fun n c => n * 10 + (c.toNat - '0'.toNat)) 0)

/-- A natural number of 64 bits, with an optional plus sign. -/
def count? (s : String) : Option Nat :=
  (match s.toList with
    | '+' :: cs => digits? cs
    | cs => digits? cs).filter (· < 0x10000000000000000)

def word? (s : String) : Option Int :=
  let n : Option Int := match s.toList with
    | '-' :: cs => (digits? cs).map fun n => -(n : Int)
    | '+' :: cs => (digits? cs).map fun n => (n : Int)
    | cs => (digits? cs).map fun n => (n : Int)
  n.filter fun n => -0x8000000000000000 ≤ n ∧ n ≤ 0x7fffffffffffffff

def kind? (s : String) : Option Intervention := (Intervention.ofName s).toOption

def program : String := "neoscaffold"

/-- The operand that names the file with the workflow. -/
def workflow : Operand := { name := "WORKFLOW" }

def nodes (help : String) : Opt where
  long := "nodes"
  short := some 'n'
  arity := .many
  value := "NODES"
  help := help
  accepts s := (word? s).isSome

def subcommands : List (String × Grammar) :=
  [("checksum", {
      about := "Print the structural checksum of a workflow"
      operands := [workflow] }),
    ("compile", {
      about := "Compile a workflow into an execution plan"
      options := [{
        long := "extensions", short := some 'e', arity := .once, value := "FILE"
        help := "Extension descriptors, as returned by the backend", accepts := (· ≠ "") }]
      operands := [workflow] }),
    ("queue", {
      about := "Compile a workflow and queue it on the backend"
      options := [{
        long := "batch", short := some 'b', arity := .once, value := "BATCH"
        help := "Number of copies to queue [default: 1]", accepts := fun s => (count? s).isSome }]
      operands := [workflow] }),
    ("intervene", {
      about := "Toggle breakpoints, stop points or restart points"
      options := [nodes "Node ids to toggle",
        { long := "all", arity := .flag, help := "Apply to every node" }]
      operands := [{
        name := "KIND", help := "breakpoint, stop or restart"
        accepts := fun s => (kind? s).isSome }, workflow] }),
    ("step", {
      about := "Release paused nodes for one step"
      options := [nodes "Paused node ids"]
      operands := [workflow]
      needed := ["nodes"] }),
    ("watch", {
      about := "Keep a workspace connected: autosave, realtime updates and reconnects"
      operands := [{ workflow with
        required := false, help := "Workflow to load instead of the autosaved one" }] })]

def toplevel : Grammar where
  about := "Compile, queue and debug NeoScaffold workflows"
  options := [
    { long := "verbose", short := some 'v', arity := .flag, help := "Enable verbose logging" },
    { long := "config", short := some 'c', arity := .once, value := "FILE"
      help := "Settings file (TOML, YAML or JSON)", accepts := (· ≠ "") },
    { long := "url", arity := .once, value := "URL", help := "Backend URL (overrides config)" }]
  versioned := true
  subcommands := subcommands.map (·.1) ++ ["help"]

def helpAbout : String := "Print this message or the help of the given subcommand(s)"

def toplevelHelp : List String :=
  toplevel.help program (subcommands.map (fun (n, g) => (n, g.about)) ++ [("help", helpAbout)])

def helpOnHelp : List String :=
  [helpAbout, "", "Usage: " ++ program ++ " help [COMMAND]..."] ++
    columns "Arguments" [("[COMMAND]...", "Print help for the subcommand(s)")]

def subcommandHelp (name : String) (g : Grammar) : List String :=
  g.help (program ++ " " ++ name) []

def action? (name : String) (a : Arguments) : Option Action := do
  let nodeIds := (a.values "nodes").filterMap word?
  match name, a.operands with
  | "checksum", [w] => some (.checksum w)
  | "compile", [w] => some (.compile w (a.value? "extensions"))
  | "queue", [w] => some (.queue w (((a.value? "batch").bind count?).getD 1))
  | "intervene", [k, w] => some (.intervene (← kind? k) w nodeIds (a.has "all"))
  | "step", [w] => some (.step w nodeIds)
  | "watch", ws => some (.watch ws.head?)
  | _, _ => none

/-- What a stop comes to, where help would print some lines. -/
def stopped (help : List String) : Stop → Parsed
  | .help => .print help
  | .version => .print [program ++ " " ++ version]
  | .misuse => .misuse

def readAction (outer : Arguments) (name : String) (args : List String) : Parsed :=
  match subcommands.lookup name with
  | none => .misuse
  | some g =>
    match g.read args with
    | .error s => stopped (subcommandHelp name g) s
    | .ok a =>
      match action? name a with
      | some t => .run ⟨outer.has "verbose", outer.value? "config", outer.value? "url", t⟩
      | none => .misuse

/-- Reads a request for help on the program or on a subcommand. -/
def readHelp : List String → Parsed
  | [] => .print toplevelHelp
  | ["help"] => .print helpOnHelp
  | [name] => ((subcommands.lookup name).map fun g => .print (subcommandHelp name g)).getD .misuse
  | _ => .misuse

def Parsed.ofArguments (args : List String) : Parsed :=
  match toplevel.read args with
  | .error s => stopped toplevelHelp s
  | .ok a =>
    match a.subcommand with
    | some ("help", rest) => readHelp rest
    | some (name, rest) => readAction a name rest
    | none => .misuse

end Flowgraph.CommandLine
