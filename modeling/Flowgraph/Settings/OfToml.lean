import Flowgraph.Settings.Kind
import Flowgraph.Toml.Reader

namespace Flowgraph.Settings

open Toml

namespace InToml

def found : Item → Found
  | .text s => .text s
  | .integer n => .integer n
  | .double d => .double d.text
  | .flag b => .flag b
  | .array _ | .tables _ => .list
  | .moment | .inlineTable _ | .table .. => .record

/-- Puts a member into a layer, if it is a setting. -/
def addMember (text : List Char) (l : Layer) (m : Member Item) : Except String Layer :=
  match kind? m.name with
  | none => .ok l
  | some k =>
    match k.accept (found m.item) with
    | .ok s => .ok (l.put m.name s)
    | .error what => .error (shownAt text m.place what)

end InToml

def Layer.ofToml (text : String) : Except String Layer :=
  let cs := text.toList
  match Table.ofText cs with
  | .error f => .error (shownAt cs f.left f.cause)
  | .ok t => t.foldlM (InToml.addMember cs) {}

end Flowgraph.Settings
