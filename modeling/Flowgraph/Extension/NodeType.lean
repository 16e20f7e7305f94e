import Flowgraph.Extension.Descriptor
import Flowgraph.Graph.Node

namespace Flowgraph

open Json

/-- Whether a type describes nodes or rules. -/
inductive NodeType.Kind where
  | node
  | rule
deriving DecidableEq, Repr

/-- A type of nodes. -/
structure NodeType where
  name : String
  title : String
  description : String
  category : String
  subcategory : String
  kind : NodeType.Kind
  /-- What a fresh node of the type looks like. -/
  template : Node

def ruleGroup : String := "rule_group"

def nonEmpty? (s : Option String) : Option String := s.filter (· ≠ "")

/-- An input slot for rules, drawn at a place of its node. -/
def ruleInput (name : String) (x y : Int) : InputSlot where
  name := name
  type := .string ruleGroup
  extra := [("pos", .array [.ofInt x, .ofInt y])]

namespace SlotDescriptor

/-- What the slot is called: by its name, or by its key if it has none. -/
def nameFor (key : String) (s : SlotDescriptor) : String := (nonEmpty? s.name).getD key

def toInput (key : String) (s : SlotDescriptor) : InputSlot where
  name := s.nameFor key
  type := .string s.kind

/-- The widget of a descriptor, called like the slot if it has no name of its own. -/
def toWidget? (key : String) (s : SlotDescriptor) : Option Widget :=
  s.widget.map fun w => ⟨(nonEmpty? w.name).getD (s.nameFor key), w.kind, w.default, true⟩

end SlotDescriptor

namespace TypeDescriptor

/-- The name of the type: the class name, or the key if there is none. -/
def typeName (key : String) (d : TypeDescriptor) : String := (nonEmpty? d.className).getD key

/-- The slots in the order in which nodes show them, the required ones first. -/
def allSlots (d : TypeDescriptor) : List (String × SlotDescriptor) :=
  match d.slots with
  | some g => g.required ++ g.optional
  | none => []

/-- The type with given fixed inputs and outputs in front of what the descriptor lists. -/
def toType (key : String) (d : TypeDescriptor) (kind : NodeType.Kind) (inputs : List InputSlot)
    (outputs : List OutputSlot) : NodeType :=
  let title := (nonEmpty? d.displayName).getD key
  { name := d.typeName key
    title := title
    description := d.description.getD ""
    category := d.category.getD ""
    subcategory := d.subcategory.getD ""
    kind := kind
    template := {
      type := d.typeName key
      title := title
      inputs := inputs ++ d.allSlots.map fun (k, s) => s.toInput k
      outputs := outputs
      widgets := d.allSlots.filterMap fun (k, s) => s.toWidget? k } }

end TypeDescriptor

namespace NodeType

/-- The type of a node descriptor. Its nodes take rules before and after they run. -/
def ofNode (key : String) (d : NodeDescriptor) : NodeType :=
  d.toTypeDescriptor.toType key .node [ruleInput "in_rules" 10 10, ruleInput "out_rules" 10 25]
    (match d.output with
      | some o => [{ name := o.name, type := .string o.kind }]
      | none => [])

/-- The type of a rule descriptor. Its nodes put out rules. -/
def ofRule (key : String) (d : RuleDescriptor) : NodeType :=
  d.toTypeDescriptor.toType key .rule [ruleInput "in_rules" 10 10]
    [{ name := ruleGroup, type := .string ruleGroup }]

end NodeType

abbrev TypeRegistry := SortedMap String NodeType

namespace TypeRegistry

/-- Registers a type in place of any type of that name. -/
def register (r : TypeRegistry) (t : NodeType) : TypeRegistry := r.insert t.name t

def instantiate? (r : TypeRegistry) (name : String) : Option Node :=
  (r.find? name).map (·.template)

end TypeRegistry

end Flowgraph
