import Flowgraph.Settings.Kind
import Flowgraph.Yaml.Meaning

namespace Flowgraph.Settings

open Yaml

namespace InYaml

/-- Something said of a setting at a place. The start of a text is not mentioned. -/
def placed (path : String) (mark : Mark) (what : String) : String :=
  (if path = "" then "" else path ++ ": ") ++ what ++
    if mark.isPastStart then " at " ++ mark.describe else ""

/-- The event at a position. Where there is none, the fault behind the document counts. -/
def eventAt (d : Document) (i : Nat) : Except String (Event × Mark) :=
  match d.events[i]? with
  | some e => .ok e
  | none => .error (d.fault.getD { problem := "EOF while parsing a value" }).message

/-- The event at a position, or the one that an alias there points to. -/
def meantAt (d : Document) (i : Nat) : Except String (Event × Mark) := do
  match ← eventAt d i with
  | (.alias n, _) => eventAt d ((d.targets.lookup n).getD i)
  | e => pure e

def foundScalar (s : Scalar) : Found :=
  match s.meaning with
  | .nothing => .nothing
  | .flag b => .flag b
  | .integer n => .integer n
  | .double d => .double d.text
  | .text t => .text t

def found : Event → Found
  | .scalar s => foundScalar s
  | .sequenceStart => .list
  | .mappingStart => .record
  | _ => .nothing

/-- The setting of a kind that a scalar spells. A text may be any scalar. -/
def setting (k : Kind) (s : Scalar) : Except String Setting :=
  let misfits : Except String Setting := .error (misfit (foundScalar s) k.describe)
  match k with
  | .text | .path => .ok (.text s.text)
  | .flag =>
    match if s.isReadAs "bool" then flag? s.text else none with
    | some b => .ok (.flag b)
    | none => misfits
  | .count =>
    match if s.isReadAs "int" then nat? s.text else none with
    | some n => .ok (.count n)
    | none => misfits

/-- Whether a scalar says that a setting is not given, unless its tag and its text contradict each
other. -/
def isAbsent (s : Scalar) : Except String Bool :=
  if s.style ≠ .plain then .ok false
  else if s.isTagged "null" then
    if isNull s.text then .ok true else .error (misfit (.text s.text) "null")
  else .ok (s.tag.isNone && (s.text = "" || isNull s.text))

/-- The setting at a position, if one is given there. -/
def value (d : Document) (start : Mark) (k : Kind) (path : String) (i : Nat) :
    Except String (Option Setting) := do
  let (e, mark) ← meantAt d i
  match e with
  | .scalar s =>
    if ← (isAbsent s).mapError (placed "" start) then pure none
    else some <$> (setting k s).mapError (placed path mark)
  | e => throw (placed path mark (misfit (found e) k.describe))

/-- The name of a setting at a position, and how it is called in what is said of its value. -/
def name (d : Document) (i : Nat) : Except String (String × String) := do
  let (written, _) ← eventAt d i
  let (e, mark) ← meantAt d i
  match written, e with
  | .scalar s, _ => pure (s.text, s.text)
  | _, .scalar s => pure (s.text, "?")
  | _, e => throw (placed "" mark (misfit (found e) "a name"))

/-- The position behind a value. Aliases in it are not followed. -/
def behind (d : Document) : Nat → Nat → Nat → Except String Nat
  | 0, _, i => .ok i
  | fuel + 1, depth, i => do
    let (e, _) ← eventAt d i
    let depth := match e with
      | .sequenceStart | .mappingStart => depth + 1
      | .sequenceEnd | .mappingEnd => depth - 1
      | _ => depth
    if depth = 0 then pure (i + 1) else behind d fuel depth (i + 1)

/-- Reads the members of the mapping at the root. -/
def members (d : Document) (start : Mark) :
    Nat → Nat → List String → Layer → Except String Layer
  | 0, _, _, l => .ok l
  | fuel + 1, i, seen, l => do
    if (← eventAt d i).1 = .mappingEnd then return l
    let (key, path) ← name d i
    match kind? key with
    | none => members d start fuel (← behind d (d.events.size + 1) 0 (i + 1)) seen l
    | some k =>
      if seen.contains key then throw (placed "" start (repeated key))
      let s ← value d start k path (i + 1)
      members d start fuel (i + 2) (key :: seen) (s.elim l (l.put key))

/-- Reads a layer from the root of a document. -/
def root (d : Document) : Except String Layer := do
  let (e, mark) ← eventAt d 0
  match e with
  | .void => pure {}
  | .mappingStart => members d mark (d.events.size + 1) 1 [] {}
  | .scalar ⟨.plain, _, ""⟩ => pure {}
  | e => throw (placed "" mark (misfit (found e) wholeName))

end InYaml

def Layer.ofYaml (text : String) : Except String Layer := do
  let d := Document.ofText text
  let l ← InYaml.root d
  match d.fault with
  | some f => throw f.message
  | none => if d.isLast then pure l else throw "there is more than one document"

end Flowgraph.Settings
