import Flowgraph.Json.Printer
import Flowgraph.Json.Reader
import Flowgraph.Json.Record
import Flowgraph.Snapshot.Basic

namespace Flowgraph

open Json

/-- The member of a field that is left out when it has no value. -/
def presentMember (name : String) (s : Option String) : Members :=
  match s with
  | some s => [(name, .string s)]
  | none => []

namespace Link

def encode (l : Link) : Value :=
  .array [.ofInt l.id, .ofInt l.origin, .ofInt l.originSlot, .ofInt l.target, .ofInt l.targetSlot,
    l.type]

def decode? : Document → Option Link
  | .array [id, origin, originSlot, target, targetSlot, type] => do
    some ⟨← id.word?, ← origin.word?, ← originSlot.nat? 64, ← target.word?, ← targetSlot.nat? 64,
      ← type.value?⟩
  | _ => none

end Link

namespace InputSlot

def declared : List String := ["name", "type", "link"]

def encode (s : InputSlot) : Value :=
  .object ([("name", .string s.name), ("type", s.type),
    ("link", (s.link.map .ofInt).getD .null)] ++ s.extra)

def decode? (d : Document) : Option InputSlot := do
  let fs ← d.fields?
  some {
    name := ← fs.required "name" Document.string?
    type := ← fs.defaulted "type" .null Document.value?
    link := ← fs.optional "link" Document.word?
    extra := ← fs.others declared }

end InputSlot

namespace OutputSlot

def declared : List String := ["name", "type", "links"]

def encode (s : OutputSlot) : Value :=
  .object ([("name", .string s.name), ("type", s.type),
    ("links", .array (s.links.map .ofInt))] ++ s.extra)

/-- Reads an output slot; null stands for no links. -/
def decode? (d : Document) : Option OutputSlot := do
  let fs ← d.fields?
  some {
    name := ← fs.required "name" Document.string?
    type := ← fs.defaulted "type" .null Document.value?
    links := (← fs.optional "links" (Document.listOf? Document.word?)).getD []
    extra := ← fs.others declared }

end OutputSlot

namespace NodeRecord

def declared : List String :=
  ["id", "type", "title", "mode", "inputs", "outputs", "properties", "widgets_values", "color",
    "bgcolor"]

/-- A node as an object. Absent titles and colours and empty lists of values are left out. -/
def encode (n : NodeRecord) : Value :=
  .object ([("id", .ofInt n.id), ("type", .string n.type)] ++ presentMember "title" n.title ++
    [("mode", .ofInt n.mode), ("inputs", .array (n.inputs.map InputSlot.encode)),
      ("outputs", .array (n.outputs.map OutputSlot.encode)),
      ("properties", .object n.properties)] ++
    (if n.widgetValues.isEmpty then [] else [("widgets_values", .array n.widgetValues)]) ++
    presentMember "color" n.color ++ presentMember "bgcolor" n.bodyColor ++ n.layout)

def decode? (d : Document) : Option NodeRecord := do
  let fs ← d.fields?
  some {
    id := ← fs.required "id" Document.word?
    type := ← fs.required "type" Document.string?
    title := ← fs.optional "title" Document.string?
    mode := ← fs.defaulted "mode" 0 (Document.nat? 8)
    inputs := ← fs.defaulted "inputs" [] (Document.listOf? InputSlot.decode?)
    outputs := ← fs.defaulted "outputs" [] (Document.listOf? OutputSlot.decode?)
    properties := ← fs.defaulted "properties" [] Document.object?
    widgetValues := ← fs.defaulted "widgets_values" [] (Document.listOf? Document.value?)
    color := ← fs.optional "color" Document.string?
    bodyColor := ← fs.optional "bgcolor" Document.string?
    layout := ← fs.others declared }

end NodeRecord

namespace Snapshot

def declared : List String :=
  ["last_node_id", "last_link_id", "nodes", "links", "groups", "config", "extra",
    "NeoScaffoldVersion", "checksum"]

def encode (s : Snapshot) : Value :=
  .object ([("last_node_id", .ofInt s.lastNode), ("last_link_id", .ofInt s.lastLink),
    ("nodes", .array (s.nodes.map NodeRecord.encode)),
    ("links", .array (s.links.map Link.encode)), ("groups", .array s.groups),
    ("config", .object s.config), ("extra", .object s.extra),
    ("NeoScaffoldVersion", .string s.version), ("checksum", .string s.checksum)] ++ s.other)

/-- Reads a version tag: a string, or a number by its text; anything else is no version. -/
def decodeVersion? (d : Document) : Option String :=
  d.value?.map fun
    | .string s => s
    | .number n => String.ofList n.text
    | _ => ""

def decode? (d : Document) : Option Snapshot := do
  let fs ← d.fields?
  some {
    lastNode := ← fs.defaulted "last_node_id" 0 Document.word?
    lastLink := ← fs.defaulted "last_link_id" 0 Document.word?
    nodes := ← fs.defaulted "nodes" [] (Document.listOf? NodeRecord.decode?)
    links := ← fs.defaulted "links" [] (Document.listOf? Link.decode?)
    groups := ← fs.defaulted "groups" [] (Document.listOf? Document.value?)
    config := ← fs.defaulted "config" [] Document.object?
    extra := ← fs.defaulted "extra" [] Document.object?
    version := ← fs.defaulted "NeoScaffoldVersion" "" decodeVersion?
    checksum := ← fs.defaulted "checksum" "" Document.string?
    other := ← fs.others declared }

def toText (s : Snapshot) : String := s.encode.compact

def ofText? (text : String) : Option Snapshot := (Document.ofText? text).bind decode?

end Snapshot

end Flowgraph
