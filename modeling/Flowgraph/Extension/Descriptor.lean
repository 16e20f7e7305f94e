import Flowgraph.Json.Record

namespace Flowgraph

open Json

/-- The widget of an input. -/
structure WidgetDescriptor where
  kind : String
  name : Option String
  default : Value
deriving Inhabited, Repr

/-- An input or parameter. -/
structure SlotDescriptor where
  name : Option String
  kind : String
  widget : Option WidgetDescriptor
deriving Inhabited, Repr

/-- Slots by key, the required ones and the optional ones. -/
structure SlotGroup where
  required : List (String × SlotDescriptor)
  optional : List (String × SlotDescriptor)
deriving Inhabited, Repr

/-- The output of a node type. -/
structure OutputDescriptor where
  name : String
  kind : String
deriving Inhabited, Repr

/-- What descriptors of nodes and of rules have in common. -/
structure TypeDescriptor where
  className : Option String
  displayName : Option String
  description : Option String
  category : Option String
  subcategory : Option String
  /-- The inputs of a node or the parameters of a rule. -/
  slots : Option SlotGroup
deriving Inhabited, Repr

/-- A node type. -/
structure NodeDescriptor extends TypeDescriptor where
  output : Option OutputDescriptor
deriving Inhabited, Repr

/-- A rule type. -/
structure RuleDescriptor extends TypeDescriptor where
deriving Inhabited, Repr

/-- An extension: its types by key, as listed. -/
structure ExtensionDescriptor where
  name : String
  version : String
  description : String
  script : Option String
  className : Option String
  nodes : List (String × NodeDescriptor)
  rules : List (String × RuleDescriptor)
deriving Inhabited, Repr

/-- Reads an object of entries of one kind, in the order of its keys; null is an empty one. -/
def entries? {α : Type} (read : Document → Option α) (d : Document) :
    Option (List (String × α)) := do
  let ms ← Document.nullable Document.object? d
  (ms.getD []).mapM fun (k, v) => (read v.toDocument).map (k, ·)

namespace WidgetDescriptor

def decode? (d : Document) : Option WidgetDescriptor := do
  let fs ← d.record? ["kind", "name", "default"]
  some {
    kind := ← fs.defaulted "kind" "" Document.string?
    name := ← fs.optional "name" Document.string?
    default := ← fs.defaulted "default" .null Document.value? }

end WidgetDescriptor

namespace SlotDescriptor

def decode? (d : Document) : Option SlotDescriptor := do
  let fs ← d.record? ["name", "kind", "widget"]
  some {
    name := ← fs.optional "name" Document.string?
    kind := ← fs.defaulted "kind" "" Document.string?
    widget := ← fs.optional "widget" WidgetDescriptor.decode? }

end SlotDescriptor

namespace SlotGroup

/-- Reads a group whose two lists go by the given names. -/
def decode? (required optional : String) (d : Document) : Option SlotGroup := do
  let fs ← d.record? [required, optional]
  some {
    required := ← fs.defaulted required [] (entries? SlotDescriptor.decode?)
    optional := ← fs.defaulted optional [] (entries? SlotDescriptor.decode?) }

end SlotGroup

namespace OutputDescriptor

def decode? (d : Document) : Option OutputDescriptor := do
  let fs ← d.record? ["name", "kind"]
  some {
    name := ← fs.defaulted "name" "" Document.string?
    kind := ← fs.defaulted "kind" "" Document.string? }

end OutputDescriptor

namespace TypeDescriptor

/-- The fields that all descriptors of types declare first. -/
def declared : List String :=
  ["javascript_class_name", "display_name", "description", "category", "subcategory"]

/-- Reads the common fields, with the group of slots under a name. -/
def ofFields? (fs : Fields) (slots : String) (group : Document → Option SlotGroup) :
    Option TypeDescriptor := do
  some {
    className := ← fs.optional "javascript_class_name" Document.string?
    displayName := ← fs.optional "display_name" Document.string?
    description := ← fs.optional "description" Document.string?
    category := ← fs.optional "category" Document.string?
    subcategory := ← fs.optional "subcategory" Document.string?
    slots := ← fs.optional slots group }

end TypeDescriptor

namespace NodeDescriptor

def decode? (d : Document) : Option NodeDescriptor := do
  let fs ← d.record? (TypeDescriptor.declared ++ ["input", "output"])
  let common ← TypeDescriptor.ofFields? fs "input"
    (SlotGroup.decode? "required_inputs" "optional_inputs")
  some { common with output := ← fs.optional "output" OutputDescriptor.decode? }

end NodeDescriptor

namespace RuleDescriptor

def decode? (d : Document) : Option RuleDescriptor := do
  let fs ← d.record? (TypeDescriptor.declared ++ ["parameters"])
  let common ← TypeDescriptor.ofFields? fs "parameters"
    (SlotGroup.decode? "required_parameters" "optional_parameters")
  some { common with }

end RuleDescriptor

namespace ExtensionDescriptor

def decode? (d : Document) : Option ExtensionDescriptor := do
  let fs ← d.record? ["name", "version", "description", "javascript", "javascript_class_name",
    "nodes", "rules"]
  some {
    name := ← fs.defaulted "name" "" Document.string?
    version := ← fs.defaulted "version" "" Document.string?
    description := ← fs.defaulted "description" "" Document.string?
    script := ← fs.optional "javascript" Document.string?
    className := ← fs.optional "javascript_class_name" Document.string?
    nodes := ← fs.defaulted "nodes" [] (entries? NodeDescriptor.decode?)
    rules := ← fs.defaulted "rules" [] (entries? RuleDescriptor.decode?) }

end ExtensionDescriptor

end Flowgraph
