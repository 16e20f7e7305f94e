import Flowgraph.Extension.Registry
import Flowgraph.Graph.Configure
import Flowgraph.Text

namespace Flowgraph

/-- What a plugin is told after an import. -/
structure ImportNotice where
  plugin : Plugin
  graph : Graph
  missing : List String

/-- The outcome of an import. -/
structure Import where
  graph : Graph
  /-- The types that are not registered, each once, in the order in which they occur. -/
  missing : List String
  /-- What the plugins are told, in the order of their extensions. -/
  notices : List ImportNotice

/-- The notice for the user that types are missing. -/
def missingTypesNotice? (missing : List String) : Option String :=
  if missing.isEmpty then none
  else some ("Missing node types: " ++ String.intercalate ", " missing)

namespace Snapshot

def prepared (s : Snapshot) (r : ExtensionRegistry) : Snapshot :=
  r.plugins.foldl (fun s p => p.prepare s) s

/-- The types that are not registered, each once, in the order in which they occur. -/
def missingTypes (s : Snapshot) (types : TypeRegistry) : List String :=
  (s.nodes.filter fun n => !types.contains n.type).foldl
    (fun seen n => if seen.contains n.type then seen else seen ++ [n.type]) []

/-- The snapshot with a safe name for every type that is not registered. -/
def withPlaceholders (s : Snapshot) (types : TypeRegistry) : Snapshot :=
  { s with nodes := s.nodes.map fun n =>
      if types.contains n.type then n else { n with type := sanitize n.type } }

def load (s : Snapshot) (r : ExtensionRegistry) : Except GraphError Import := do
  let s := s.prepared r
  let missing := s.missingTypes r.types
  let g ← Graph.ofSnapshot (s.withPlaceholders r.types) r.types
  return ⟨g, missing, r.plugins.map (⟨·, g, missing⟩)⟩

end Snapshot

end Flowgraph
