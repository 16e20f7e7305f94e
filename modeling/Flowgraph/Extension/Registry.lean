import Flowgraph.Error
import Flowgraph.Extension.NodeType
import Flowgraph.Snapshot.Basic
import Flowgraph.Text.Quotation

namespace Flowgraph

open Json

/-- What a host does when a workflow is imported on behalf of extensions of a class. -/
structure Plugin where
  className : String
  /-- Changes the snapshot before it becomes a graph. -/
  prepare : Snapshot → Snapshot

/-- A loaded extension. -/
structure Extension where
  name : String
  version : String
  description : String
  /-- The plugin that the host offered for the extension's class. -/
  plugin : Option Plugin
  nodes : SortedMap String NodeDescriptor
  rules : SortedMap String RuleDescriptor

def Extension.describe (e : Extension) : String :=
  let keys (ks : List String) := "[" ++ String.intercalate ", " (ks.map inQuotes) ++ "]"
  "Extension \x7b name: " ++ inQuotes e.name ++ ", version: " ++ inQuotes e.version ++
    ", has_instance: " ++ (if e.plugin.isSome then "true" else "false") ++
    ", nodes: " ++ keys e.nodes.keys ++ ", rules: " ++ keys e.rules.keys ++ " \x7d"

/-- Loaded extensions by key, their types, and the plugins on offer by class name. -/
structure ExtensionRegistry where
  extensions : SortedMap String Extension := .empty
  types : TypeRegistry := .empty
  offered : SortedMap String Plugin := .empty

namespace ExtensionRegistry

def offer (r : ExtensionRegistry) (p : Plugin) : ExtensionRegistry :=
  { r with offered := r.offered.insert p.className p }

/-- The types of an extension in the order in which they are registered. -/
def typesOf (d : ExtensionDescriptor) : List NodeType :=
  d.nodes.map (fun (k, n) => NodeType.ofNode k n) ++ d.rules.map fun (k, r) => NodeType.ofRule k r

/-- Adds an extension in place of any extension with that key, and registers its types. -/
def add (r : ExtensionRegistry) (key : String) (d : ExtensionDescriptor) : ExtensionRegistry :=
  { r with
    types := (typesOf d).foldl TypeRegistry.register r.types
    extensions := r.extensions.insert key {
      name := d.name
      version := d.version
      description := d.description
      plugin := (nonEmpty? d.className).bind r.offered.find?
      nodes := .ofList d.nodes
      rules := .ofList d.rules } }

/-- Reads the extensions of a document by key. Null is a document without any. -/
def descriptors (v : Value) : Except GraphError (List (String × ExtensionDescriptor)) :=
  match v with
  | .object ms =>
    match ms.mapM fun (k, v) => (ExtensionDescriptor.decode? v.toDocument).map (k, ·) with
    | some ds => .ok ds
    | none => .error .malformed
  | .null => .ok []
  | other => .error (.descriptorsNotObject other)

/-- Loads the extensions of a document, all or none. -/
def load (r : ExtensionRegistry) (v : Value) : Except GraphError ExtensionRegistry := do
  return (← descriptors v).foldl (fun r e => r.add e.1 e.2) r

/-- The plugins of the loaded extensions, by the keys of the extensions. -/
def plugins (r : ExtensionRegistry) : List Plugin :=
  r.extensions.values.filterMap (·.plugin)

end ExtensionRegistry

end Flowgraph
