import Flowgraph.Failure
import Flowgraph.Settings.OfJson
import Flowgraph.Settings.OfToml
import Flowgraph.Settings.OfYaml

namespace Flowgraph

/-- The name of the file or directory that a path ends in. -/
def fileName? (path : String) : Option String :=
  let parts := (path.toList.splitOn '/').filter fun p => p ≠ [] ∧ p ≠ ['.']
  (parts.getLast?.filter (· ≠ ['.', '.'])).map String.ofList

/-- What follows the last point of a file name, unless the name starts with it. -/
def extension? (path : String) : Option String := do
  let name ← fileName? path
  let tail := name.toList.reverse.takeWhile (· ≠ '.')
  if name.length ≤ tail.length + 1 then none else some (String.ofList tail.reverse)

namespace Settings

/-- The formats of settings files. -/
inductive Format where
  | toml
  | yaml
  | json
deriving DecidableEq, Repr

def Format.ofPath? (path : String) : Option Format :=
  match extension? path with
  | some "toml" => some .toml
  | some "yaml" | some "yml" => some .yaml
  | some "json" => some .json
  | _ => none

/-- Reads a layer from the text of a file. -/
def Layer.ofFile (path text : String) : Except Failure Layer :=
  match Format.ofPath? path with
  | some .toml => (ofToml text).mapError .settings
  | some .yaml => (ofYaml text).mapError .malformed
  | some .json => (ofJson text).mapError .malformed
  | none => .error (.unknownFormat (extension? path))

/-- What the environment says about settings. -/
structure Environment where
  url : Option String := none
  authEnabled : Option String := none

def onWords : List String := ["true", "1", "yes", "on"]

def offWords : List String := ["false", "0", "no", "off"]

/-- The truth value of a word in letters of either case. -/
def flagOf? (word : String) : Option Bool :=
  let word := String.ofList (word.toList.map Char.toLower)
  if onWords.contains word then some true
  else if offWords.contains word then some false
  else none

/-- The layer of an environment, in which empty values say nothing. -/
def Environment.layer (e : Environment) : Layer :=
  { baseUrl := e.url.filter (· ≠ ""), authEnabled := e.authEnabled.bind flagOf? }

/-- The names of the directory and the file with settings below a home or working directory. -/
def standardPath : String := ".neoscaffold/neoscaffold.toml"

/-- A file by its path, with its text if it is there. -/
abbrev File := String × Option String

/-- The built-in settings under the layers of the files that are there, under the environment. -/
def load (home : String) (env : Environment) (files : List File) : Except Failure Settings := do
  let s ← files.foldlM (fun (s : Settings) (f : File) =>
    match f.2 with
    | some text => return s.merge (← Layer.ofFile f.1 text)
    | none => return s) (builtIn home)
  return s.merge env.layer

/-- The built-in settings under one file, which must be there, under the environment. -/
def loadFile (home : String) (env : Environment) (file : File) : Except Failure Settings :=
  match file.2 with
  | some _ => load home env [file]
  | none => .error (.storage "no such file")

end Settings

end Flowgraph
