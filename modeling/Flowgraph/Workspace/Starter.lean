import Flowgraph.Snapshot.Basic

namespace Flowgraph

open Json

namespace Starter

/-- An input slot for rules, at a height. -/
def ruleSlot (name : String) (y : Int) : InputSlot where
  name := name
  type := .string "rule_group"
  extra := [("pos", .array [.ofInt 10, .ofInt y])]

/-- An input slot by name, type and link. -/
def input (s : String × String × Option LinkId) : InputSlot where
  name := s.1
  type := .string s.2.1
  link := s.2.2

/-- An output slot by name, type and links. One without links was never given a place. -/
def output (s : String × String × List LinkId) : OutputSlot where
  name := s.1
  type := .string s.2.1
  links := s.2.2
  extra := if s.2.2.isEmpty then [] else [("slot_index", .ofInt 0)]

def color : String := "#B8D982"

/-- A node by its place, size and rank on the canvas, its slots behind those for rules, and the
values of its widgets before the last, which is empty. -/
def node (id : NodeId) (type : String) (place : Int × Int) (size : Number × Number) (rank : Int)
    (inputs : List (String × String × Option LinkId))
    (outputs : List (String × String × List LinkId)) (values : List Value) : NodeRecord where
  id := id
  type := type
  inputs := ruleSlot "in_rules" 10 :: ruleSlot "out_rules" 25 :: inputs.map input
  outputs := outputs.map output
  widgetValues := values ++ [.null]
  color := color
  bodyColor := color
  layout := [("pos", .array [.ofInt place.1, .ofInt place.2]),
    ("size", .object [("0", .number size.1), ("1", .number size.2)]),
    ("flags", .object []), ("order", .ofInt rank)]

/-- The nodes, in the order in which they were stored. -/
def nodes : List NodeRecord :=
  [node 6 "nsString" (-359, -35) (.int 210, .int 140) 0
      [("text", "*", none)] [("*", "*", [4, 6, 13])] [.string "conditionKey"],
    node 13 "ValuePath" (312, 193) (.int 210, .int 185) 5
      [("object", "*", some 17), ("value_path", "*", none)]
      [("*", "*", [18])]
      [.string "", .string "key"],
    node 1 "WhileLoop" (594, 181) (.float 0x4070405180000000, .float 0x406a2c4ee0000000) 6
      [("condition_key", "string", some 18), ("node_inputs", "*", none)]
      [("loop", "control_flow", [2, 14])]
      [.string "", .string ""],
    node 4 "MemoryWrite" (-61, 183) (.float 0x4071a54bc0000000, .float 0x40767bd040000000) 4
      [("key", "*", some 4), ("value", "*", some 22)]
      [("*", "*", [17])]
      [.string "", .string ""],
    node 17 "PassThrough" (-526, 369) (.int 210, .int 185) 3
      [("value", "*", some 21), ("ignored_input", "*", some 23)]
      [("*", "*", [22])]
      [.string "", .string ""],
    node 5 "nsInteger" (-834, 242) (.int 210, .int 140) 1
      [("value", "number", none)] [("*", "*", [21])] [.ofInt (-5)],
    node 21 "ValuePath" (1788, -406) (.float 0x407055fe20000000, .float 0x4074650c40000000) 12
      [("object", "*", some 26), ("value_path", "*", none)]
      [("*", "*", [28])]
      [.string "", .string "summary"],
    node 18 "MemoryWrite" (-925, 517) (.float 0x4075514140000000, .float 0x4075b627a0000000) 2
      [("key", "*", none), ("value", "*", none)]
      [("*", "*", [23])]
      [.string "thought_memory", .string "Computers usually have a CPU."],
    node 12 "PassThrough" (1007, 219) (.int 210, .int 185) 7
      [("value", "*", some 13), ("ignored_input", "*", some 14)]
      [("*", "*", [19, 31])]
      [.string "", .string ""],
    node 22 "MemoryRead" (524, -395) (.int 210, .int 140) 9
      [("key", "*", some 32)] [("*", "*", [30])] [.string ""],
    node 23 "PassThrough" (221, -313) (.int 210, .int 185) 8
      [("value", "*", none), ("ignored_input", "*", some 31)]
      [("*", "*", [32])]
      [.string "thought_memory", .string ""],
    node 20 "MemoryWrite" (2184, -347) (.float 0x4079224b80000000, .float 0x4075fb6180000000) 13
      [("key", "*", none), ("value", "*", some 28)]
      [("*", "*", [29])]
      [.string "thought_memory", .string ""],
    node 19 "ConcatString" (862, -428) (.float 0x4074e5da40000000, .float 0x4076476e40000000) 10
      [("a", "*", none), ("b", "*", some 30)]
      [("*", "*", [25])]
      [.string ("Think about the following and describe the most impactful optimization " ++
          "that you can apply to computer programs: "), .string ""],
    node 14 "PassThrough" (1405, 268) (.int 210, .int 185) 14
      [("value", "*", some 19), ("ignored_input", "*", some 29)]
      [("*", "*", [20])]
      [.string "", .string ""],
    node 9 "MemoryRead" (1723, 306) (.int 210, .int 140) 15
      [("key", "*", some 20)] [("*", "*", [9])] [.string ""],
    node 8 "Add" (2057, 299) (.int 210, .int 185) 16
      [("a", "number", some 9), ("b", "number", none)]
      [("result", "number", [11])]
      [.ofInt 0, .ofInt 1],
    node 7 "MemoryWrite" (2378, 211) (.float 0x40744fc160000000, .float 0x4075affc80000000) 17
      [("key", "*", some 6), ("value", "*", some 11)]
      [("*", "*", [12])]
      [.string "", .string ""],
    node 11 "ConsoleLog" (2774, 215) (.float 0x407cbb1440000000, .float 0x4076122960000000) 18
      [("any", "*", some 12)] [("any", "*", [16])] [.string ""],
    node 3 "EndWhileLoop" (1336, 662) (.float 0x4075ff92a0000000, .float 0x407429ab80000000) 19
      [("WhileLoop", "control_flow", some 2), ("node_inputs", "*", some 16)]
      [("*", "*", [])]
      [.string ""],
    node 15 "CerebrasAgent" (1283, -426) (.float 0x407b1cbe40000000, .float 0x407d73abe0000000) 11
      [("api_key", "string", none), ("prompt", "string", some 25)]
      [("*", "*", [26])]
      [.string "", .string ""]]

def links : List Link :=
    [⟨2, 1, 0, 3, 2, .string "control_flow"⟩, ⟨4, 6, 0, 4, 2, .string "*"⟩,
      ⟨6, 6, 0, 7, 2, .string "*"⟩, ⟨9, 9, 0, 8, 2, .string "number"⟩,
      ⟨11, 8, 0, 7, 3, .string "*"⟩, ⟨12, 7, 0, 11, 2, .string "*"⟩,
      ⟨13, 6, 0, 12, 2, .string "*"⟩, ⟨14, 1, 0, 12, 3, .string "*"⟩,
      ⟨16, 11, 0, 3, 3, .string "*"⟩, ⟨17, 4, 0, 13, 2, .string "*"⟩,
      ⟨18, 13, 0, 1, 2, .string "string"⟩, ⟨19, 12, 0, 14, 2, .string "*"⟩,
      ⟨20, 14, 0, 9, 2, .string "*"⟩, ⟨21, 5, 0, 17, 2, .string "*"⟩,
      ⟨22, 17, 0, 4, 3, .string "*"⟩, ⟨23, 18, 0, 17, 3, .string "*"⟩,
      ⟨25, 19, 0, 15, 3, .string "string"⟩, ⟨26, 15, 0, 21, 2, .string "*"⟩,
      ⟨28, 21, 0, 20, 3, .string "*"⟩, ⟨29, 20, 0, 14, 3, .string "*"⟩,
      ⟨30, 22, 0, 19, 3, .string "*"⟩, ⟨31, 12, 0, 23, 3, .string "*"⟩,
      ⟨32, 23, 0, 22, 2, .string "*"⟩]

end Starter

def starterWorkflow : Snapshot where
  lastNode := 23
  lastLink := 32
  nodes := Starter.nodes
  links := Starter.links
  version := "0.1"
  checksum := "L4y6vAh5cQxZmBgtkS445UEYWSJ5CF6yosZ/LMdwlEY="
  other := [("version", .number (.float 0x3fd999999999999a))]

end Flowgraph
