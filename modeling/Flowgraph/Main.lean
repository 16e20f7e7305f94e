import Flowgraph.CommandLine.Run
import Std.Time.DateTime.Timestamp

namespace Flowgraph.CommandLine

/-- The text of a file, if it can be read. -/
def textOf (path : String) : IO (Option String) := do
  try return some (← IO.FS.readFile path) catch _ => return none

/-- The texts of files, as far as they can be read. -/
def textsOf (paths : List String) : IO (List (String × Option String)) :=
  paths.mapM fun path => return (path, ← textOf path)

def present : IO Clock := do
  let millis := (← Std.Time.Timestamp.now).toMillisecondsSinceUnixEpoch.toInt.toNat
  return .atMillis millis (← (List.range 12).mapM fun _ => IO.rand 0 63)

/-- What is stored in a directory for a session and as the latest workflow. -/
def storageAt (dir sessionKey : String) : IO Storage := do
  let names := [workflowKey, sessionKey].map Storage.fileFor
  let files ← names.filterMapM fun name =>
    return (← textOf (dir ++ "/" ++ name)).map fun text => (name, text)
  return .files { files := .ofList files }

/-- Writes a file under a staging name and then gives it its own. -/
def replaceFile (path text : String) : IO Unit := do
  IO.FS.writeFile (path ++ ".tmp") text
  IO.FS.rename (path ++ ".tmp") path

/-- Writes what changed of what is stored back to a directory, as far as that can be done. -/
def writeBack (dir : String) : Storage → Storage → IO Unit
  | .files before, .files after => do
    let path (name : String) : String := dir ++ "/" ++ name
    try
      for (name, text) in after.files.entries do
        if before.files.find? name ≠ some text then
          IO.FS.createDirAll dir
          replaceFile (path name) text
      for name in before.files.keys do
        if (after.files.find? name).isNone then IO.FS.removeFile (path name)
    catch _ => return
  | _, _ => return

/-- Looks after a workspace from time to time until a task ends, then shuts it down. -/
partial def keep (ending : Task (Except IO.Error Unit)) (dir : String) (w : Workspace) :
    IO Unit := do
  let ended ← IO.hasFinished ending
  let clock ← present
  let next := if ended then w.shutdown else w.tick clock
  writeBack dir w.account.storage next.account.storage
  if !ended then
    IO.sleep (UInt32.ofNat next.settings.autosaveInterval)
    keep ending dir next

partial def exhaust (input : IO.FS.Stream) : IO Unit := do
  if (← input.getLine) ≠ "" then exhaust input

/-- Says what went wrong and answers the exit code. -/
def exitWith (complaint : Option Complaint) : IO UInt32 := do
  match complaint with
  | none => return 0
  | some c =>
    IO.eprintln ("Error: " ++ c.message)
    return 1

/-- Does what was asked. Watching goes on until the standard input ends. -/
def run (i : Invocation) : IO UInt32 := do
  let blind : Surroundings :=
    { home := (← IO.getEnv "HOME").getD "."
      environment := ⟨← IO.getEnv "NEOSCAFFOLD_URL", ← IO.getEnv "NEOSCAFFOLD_AUTH_ENABLED"⟩
      clock := ← present
      textAt := fun _ => none
      storageIn := fun _ => .files {}
      backendAt := fun _ => .unreachable }
  let texts ← textsOf (blind.files i)
  let sighted := { blind with textAt := fun path => (texts.lookup path).join }
  let settings := sighted.settings i
  let before ← storageAt settings.stateDir settings.sessionKey
  let s := { sighted with storageIn := fun _ => before }
  match i.action with
  | .watch path =>
    let (w, complaint) := s.watched settings path
    writeBack settings.stateDir before w.account.storage
    if complaint.isNone then
      keep (← IO.asTask (exhaust (← IO.getStdin))) settings.stateDir w
    exitWith complaint
  | action =>
    let r := s.perform settings action
    r.lines.forM IO.println
    r.stored.forM (writeBack settings.stateDir before)
    exitWith r.complaint

end Flowgraph.CommandLine

open Flowgraph.CommandLine in
def main (args : List String) : IO UInt32 :=
  match Parsed.ofArguments args with
  | .run i => run i
  | .print lines => do
    lines.forM IO.println
    return 0
  | .misuse => do
    IO.eprintln (toplevel.usage program)
    return 2
