import Flowgraph.Failure
import Flowgraph.SortedMap

namespace Flowgraph

/-- A directory with the texts of its files. -/
structure Directory where
  files : SortedMap String String := .empty
  /-- Whether something else is in the place of the directory. -/
  blocked : Bool := false
  /-- The longest file name that can be used, in bytes. -/
  longestName : Option Nat := none
deriving Inhabited

namespace Directory

/-- What is said when the directory cannot be used. -/
def notADirectory : String := "Not a directory (os error 20)"

/-- What is said when a file name is too long. -/
def nameTooLong : String := "File name too long (os error 36)"

/-- Fails unless a file can have a name. -/
def check (d : Directory) (name : String) : Except Failure Unit :=
  if d.blocked then .error (.storage notADirectory)
  else if d.longestName.any (· < name.utf8ByteSize) then .error (.storage nameTooLong)
  else .ok ()

/-- The text of a file, if there is one. -/
def read (d : Directory) (name : String) : Except Failure (Option String) := do
  d.check name
  return d.files.find? name

def write (d : Directory) (name text : String) : Except Failure Directory := do
  d.check name
  return { d with files := d.files.insert name text }

/-- Gives a file another name, in place of any file with that name. -/
def rename (d : Directory) (old new : String) : Except Failure Directory := do
  d.check old
  d.check new
  match d.files.find? old with
  | some text => return { d with files := (d.files.erase old).insert new text }
  | none => return d

/-- Removes a file, if there is one. -/
def remove (d : Directory) (name : String) : Except Failure Directory := do
  d.check name
  return { d with files := d.files.erase name }

end Directory

/-- Where texts are stored. -/
inductive Storage where
  | memory (texts : SortedMap String String)
  | files (directory : Directory)

namespace Storage

/-- Whether a character of a key is kept in the name of its file. -/
def isSafe (c : Char) : Bool := c.isAlphanum || c = '_' || c = '-'

/-- The name of the file for a key, without its extension. -/
def stemFor (key : String) : String :=
  String.ofList (key.toList.map fun c => if isSafe c then c else '_')

def fileFor (key : String) : String := stemFor key ++ ".json"

/-- The name under which the file for a key is written first. -/
def stagingFor (key : String) : String :=
  -- The file for the empty key has no stem but its whole name, which keeps its own ending.
  (if key.isEmpty then fileFor key else stemFor key) ++ ".json.tmp"

def get? (s : Storage) (key : String) : Except Failure (Option String) :=
  match s with
  | .memory texts => .ok (texts.find? key)
  | .files d => d.read (fileFor key)

def set (s : Storage) (key text : String) : Except Failure Storage :=
  match s with
  | .memory texts => .ok (.memory (texts.insert key text))
  | .files d => do
    let d ← d.write (stagingFor key) text
    return .files (← d.rename (stagingFor key) (fileFor key))

def remove (s : Storage) (key : String) : Except Failure Storage :=
  match s with
  | .memory texts => .ok (.memory (texts.erase key))
  | .files d => do return .files (← d.remove (fileFor key))

end Storage

def workflowKey : String := "workflow"

end Flowgraph
