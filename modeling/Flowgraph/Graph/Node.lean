import Flowgraph.Graph.Link

namespace Flowgraph

open Json

/-- When a node runs. -/
inductive Mode where
  | always
  | onEvent
  /-- Left out of execution plans. -/
  | never
  | onTrigger
  | bypass
deriving DecidableEq, Repr, Inhabited

namespace Mode

def code : Mode → Nat
  | .always => 0
  | .onEvent => 1
  | .never => 2
  | .onTrigger => 3
  | .bypass => 4

/-- The mode that a number stands for; unknown numbers stand for `always`. -/
def ofCode : Nat → Mode
  | 1 => .onEvent
  | 2 => .never
  | 3 => .onTrigger
  | 4 => .bypass
  | _ => .always

end Mode

/-- A slot that takes one link. -/
structure InputSlot where
  name : String
  type : Value := .null
  /-- The link that feeds the slot. -/
  link : Option LinkId := none
  /-- Members that are kept and not interpreted. -/
  extra : Members := []
deriving Inhabited, Repr

/-- A slot that feeds any number of links. -/
structure OutputSlot where
  name : String
  type : Value := .null
  /-- The links out of the slot, in the order in which they were made. -/
  links : List LinkId := []
  /-- Members that are kept and not interpreted. -/
  extra : Members := []
deriving Inhabited, Repr

/-- A named value that is edited on its node. -/
structure Widget where
  name : String
  kind : String
  value : Value
  /-- Whether the value becomes an input of the compiled node. -/
  compiled : Bool := true
deriving Inhabited, Repr

/-- A title colour and a body colour. -/
structure Colors where
  title : String
  body : String
deriving DecidableEq, Inhabited, Repr

namespace Palette

/-- What nodes look like that have no colours of their own. -/
def standard : Colors := ⟨"#333", "#353535"⟩

def evaluating : Colors := ⟨"#FFF", "#FFF"⟩

def paused : Colors := ⟨"#2a363b", "#2a363b"⟩

def errorColor : String := "#FF0000"

def failed : Colors := ⟨errorColor, errorColor⟩

end Palette

/-- A node of a graph. -/
structure Node where
  id : NodeId := 0
  /-- The name of the node's type. -/
  type : String
  title : String := type
  mode : Mode := .always
  inputs : List InputSlot := []
  outputs : List OutputSlot := []
  widgets : List Widget := []
  /-- Free-form properties. `result`, `node_errors` and `evaluation_action` hold what a run
  reported. -/
  properties : Members := []
  color : Option String := none
  bodyColor : Option String := none
  /-- Members that are kept and not interpreted. -/
  layout : Members := []
  /-- Stored widget values that no widget takes. -/
  unbound : List Value := []
  /-- The colours to go back to, while others are shown. -/
  remembered : Option Colors := none
deriving Inhabited, Repr

namespace Node

/-- The position of the first input slot with a name. -/
def inputIndex? (n : Node) (name : String) : Option Nat := n.inputs.findIdx? (·.name = name)

def widget? (n : Node) (name : String) : Option Widget := n.widgets.find? (·.name = name)

/-- Sets the value of the first widget with a name. -/
def setWidget (n : Node) (name : String) (value : Value) : Node :=
  match n.widgets.findIdx? (·.name = name) with
  | some i => { n with widgets := n.widgets.modify i ({ · with value := value }) }
  | none => n

/-- The colours that a node shows, the standard ones where it has none. -/
def shown (n : Node) : Colors :=
  ⟨n.color.getD Palette.standard.title, n.bodyColor.getD Palette.standard.body⟩

/-- Shows other colours, and remembers the present ones unless some are remembered already. -/
def switchColors (n : Node) (c : Colors) : Node :=
  { n with
    remembered := some (n.remembered.getD n.shown)
    color := some c.title
    bodyColor := some c.body }

/-- Goes back to remembered colours. An error colour becomes the standard one, and so does every
colour if `all` is set. -/
def restoreColors (n : Node) (all : Bool) : Node :=
  let color := (n.remembered.map (·.title)).or n.color
  let bodyColor := (n.remembered.map (·.body)).or n.bodyColor
  { n with
    remembered := none
    color := if all ∨ color = some Palette.errorColor then some Palette.standard.title else color
    bodyColor :=
      if all ∨ bodyColor = some Palette.errorColor then some Palette.standard.body else bodyColor }

/-- Whether other colours than the node's own are shown. -/
def remembersColors (n : Node) : Bool := n.remembered.isSome

end Node

end Flowgraph
