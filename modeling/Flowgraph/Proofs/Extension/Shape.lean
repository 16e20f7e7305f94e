import Flowgraph.Extension.Registry
import Flowgraph.Proofs.Json.Shape

namespace Flowgraph

open Json

theorem entries?_reads {α : Type} {s : Shape} {view : Value → α} {read : Document → Option α}
    (R : s.Reads view read) : s.entries.Reads (Value.entries view) (entries? read) := by
  intro σ v proper
  cases proper with
  | @object ms distinct each =>
    have back := Faithful.object.back σ ms ⟨distinct, each⟩
    have members : Document.nullable Document.object? ((Value.object ms).spelled σ) =
        some (some ms) :=
      congrArg (Option.map some) back
    rw [entries?, members]
    exact R.mapM_entries each
  | _ => rfl

namespace WidgetDescriptor

def shape : Shape := .record [("kind", .text), ("name", .optional .text), ("default", .any)]

def ofValue (v : Value) : WidgetDescriptor :=
  let declared := ["kind", "name", "default"]
  { kind := v.seen declared "kind" "" Value.text
    name := v.seen declared "name" none (Value.optional Value.text)
    default := v.seen declared "default" .null id }

theorem reads : shape.Reads ofValue decode? := by
  refine .record (by decide) fun v fs of => ?_
  refine Shape.Reads.text.bind of (by decide) ?_
  refine Shape.Reads.text.optional.bind of (by decide) ?_
  exact Shape.Reads.any.bind of (by decide) rfl

end WidgetDescriptor

namespace SlotDescriptor

def shape : Shape :=
  .record [("name", .optional .text), ("kind", .text), ("widget", .optional WidgetDescriptor.shape)]

def ofValue (v : Value) : SlotDescriptor :=
  let declared := ["name", "kind", "widget"]
  { name := v.seen declared "name" none (Value.optional Value.text)
    kind := v.seen declared "kind" "" Value.text
    widget := v.seen declared "widget" none (Value.optional WidgetDescriptor.ofValue) }

theorem reads : shape.Reads ofValue decode? := by
  refine .record (by decide) fun v fs of => ?_
  refine Shape.Reads.text.optional.bind of (by decide) ?_
  refine Shape.Reads.text.bind of (by decide) ?_
  exact WidgetDescriptor.reads.optional.bind of (by decide) rfl

end SlotDescriptor

namespace SlotGroup

variable {required optional : String}

def shape (required optional : String) : Shape :=
  .record [(required, .entries SlotDescriptor.shape), (optional, .entries SlotDescriptor.shape)]

def ofValue (required optional : String) (v : Value) : SlotGroup :=
  let declared := [required, optional]
  { required := v.seen declared required [] (Value.entries SlotDescriptor.ofValue)
    optional := v.seen declared optional [] (Value.entries SlotDescriptor.ofValue) }

theorem reads (apart : required ≠ optional) :
    (shape required optional).Reads (ofValue required optional) (decode? required optional) := by
  refine .record ?_ fun v fs of => ?_
  · simpa using apart
  · refine (entries?_reads SlotDescriptor.reads).bind of (by simp) ?_
    exact (entries?_reads SlotDescriptor.reads).bind of (by simp) rfl

end SlotGroup

namespace OutputDescriptor

def shape : Shape := .record [("name", .text), ("kind", .text)]

def ofValue (v : Value) : OutputDescriptor :=
  let declared := ["name", "kind"]
  { name := v.seen declared "name" "" Value.text
    kind := v.seen declared "kind" "" Value.text }

theorem reads : shape.Reads ofValue decode? := by
  refine .record (by decide) fun v fs of => ?_
  refine Shape.Reads.text.bind of (by decide) ?_
  exact Shape.Reads.text.bind of (by decide) rfl

end OutputDescriptor

namespace TypeDescriptor

/-- The common fields, and the group of slots under a name. -/
def fields (slots : String) (group : Shape) : List (String × Shape) :=
  declared.map (·, .optional .text) ++ [(slots, .optional group)]

def ofValue (declared : List String) (slots : String) (group : Value → SlotGroup) (v : Value) :
    TypeDescriptor where
  className := v.seen declared "javascript_class_name" none (Value.optional Value.text)
  displayName := v.seen declared "display_name" none (Value.optional Value.text)
  description := v.seen declared "description" none (Value.optional Value.text)
  category := v.seen declared "category" none (Value.optional Value.text)
  subcategory := v.seen declared "subcategory" none (Value.optional Value.text)
  slots := v.seen declared slots none (Value.optional group)

theorem bind_ofFields? {β : Type} {all : List String} {v : Value} {fs : Fields} {slots : String}
    {group : Shape} {view : Value → SlotGroup} {read : Document → Option SlotGroup}
    (R : group.Reads view read) (of : fs.Of all v) (known : declared ⊆ all) (there : slots ∈ all)
    {rest : TypeDescriptor → Option β} {others : Bool} {b : β}
    (later : rest (ofValue all slots view v) = if others then some b else none) :
    (ofFields? fs slots read).bind rest =
      if ((fields slots group).all fun f => (v.field? all f.1).all f.2) && others then some b
      else none := by
  have text := Shape.Reads.text.optional
  simp only [ofFields?, fields, declared, Option.bind_eq_bind, Option.bind_assoc, Option.bind_some,
    List.map_cons, List.map_nil, List.cons_append, List.nil_append, List.all_cons, List.all_nil,
    Bool.and_true, Bool.and_assoc]
  refine text.bind of (known (by decide)) ?_
  refine text.bind of (known (by decide)) ?_
  refine text.bind of (known (by decide)) ?_
  refine text.bind of (known (by decide)) ?_
  refine text.bind of (known (by decide)) ?_
  exact R.optional.bind of there later

end TypeDescriptor

namespace NodeDescriptor

def shape : Shape :=
  .record (TypeDescriptor.fields "input" (SlotGroup.shape "required_inputs" "optional_inputs") ++
    [("output", .optional OutputDescriptor.shape)])

def ofValue (v : Value) : NodeDescriptor :=
  let declared := TypeDescriptor.declared ++ ["input", "output"]
  { TypeDescriptor.ofValue declared "input"
      (SlotGroup.ofValue "required_inputs" "optional_inputs") v with
    output := v.seen declared "output" none (Value.optional OutputDescriptor.ofValue) }

theorem reads : shape.Reads ofValue decode? := by
  refine .record (by decide) fun v fs of => ?_
  rw [List.all_append]
  refine TypeDescriptor.bind_ofFields? (SlotGroup.reads (by decide)) of (by decide) (by decide) ?_
  exact OutputDescriptor.reads.optional.bind of (by decide) rfl

end NodeDescriptor

namespace RuleDescriptor

def shape : Shape :=
  .record (TypeDescriptor.fields "parameters"
    (SlotGroup.shape "required_parameters" "optional_parameters"))

def ofValue (v : Value) : RuleDescriptor :=
  { TypeDescriptor.ofValue (TypeDescriptor.declared ++ ["parameters"]) "parameters"
      (SlotGroup.ofValue "required_parameters" "optional_parameters") v with }

theorem reads : shape.Reads ofValue decode? := by
  refine .record (by decide) fun v fs of => ?_
  rw [← Bool.and_true (List.all _ _)]
  exact TypeDescriptor.bind_ofFields? (SlotGroup.reads (by decide)) of (by decide) (by decide) rfl

end RuleDescriptor

namespace ExtensionDescriptor

def shape : Shape := .record [("name", .text), ("version", .text), ("description", .text),
  ("javascript", .optional .text), ("javascript_class_name", .optional .text),
  ("nodes", .entries NodeDescriptor.shape), ("rules", .entries RuleDescriptor.shape)]

def ofValue (v : Value) : ExtensionDescriptor :=
  let declared := ["name", "version", "description", "javascript", "javascript_class_name",
    "nodes", "rules"]
  { name := v.seen declared "name" "" Value.text
    version := v.seen declared "version" "" Value.text
    description := v.seen declared "description" "" Value.text
    script := v.seen declared "javascript" none (Value.optional Value.text)
    className := v.seen declared "javascript_class_name" none (Value.optional Value.text)
    nodes := v.seen declared "nodes" [] (Value.entries NodeDescriptor.ofValue)
    rules := v.seen declared "rules" [] (Value.entries RuleDescriptor.ofValue) }

theorem reads : shape.Reads ofValue decode? := by
  refine .record (by decide) fun v fs of => ?_
  refine Shape.Reads.text.bind of (by decide) ?_
  refine Shape.Reads.text.bind of (by decide) ?_
  refine Shape.Reads.text.bind of (by decide) ?_
  refine Shape.Reads.text.optional.bind of (by decide) ?_
  refine Shape.Reads.text.optional.bind of (by decide) ?_
  refine (entries?_reads NodeDescriptor.reads).bind of (by decide) ?_
  exact (entries?_reads RuleDescriptor.reads).bind of (by decide) rfl

end ExtensionDescriptor

namespace ExtensionRegistry

/-- A document of extensions. -/
def shape : Shape := .entries ExtensionDescriptor.shape

def listedIn (v : Value) : List (String × ExtensionDescriptor) :=
  v.entries ExtensionDescriptor.ofValue

theorem descriptors_of_fits {v : Value} (proper : v.Proper) (fits : shape v = true) :
    descriptors v = .ok (listedIn v) := by
  cases proper with
  | @object ms _ each =>
    have fits : (ms.all fun m => ExtensionDescriptor.shape m.2) = true := fits
    rw [descriptors, ExtensionDescriptor.reads.mapM_entries each, if_pos fits]
    rfl
  | null => rfl
  | _ => cases fits

/-- Any other document is refused, an object for a misshapen extension in it. -/
theorem descriptors_of_misfit {v : Value} (proper : v.Proper) (misfit : shape v = false) :
    descriptors v = .error (match v with
      | .object _ => .malformed
      | other => .descriptorsNotObject other) := by
  cases proper with
  | @object ms _ each =>
    have misfit : ¬(ms.all fun m => ExtensionDescriptor.shape m.2) = true :=
      Bool.eq_false_iff.1 misfit
    rw [descriptors, ExtensionDescriptor.reads.mapM_entries each, if_neg misfit]
  | null => cases misfit
  | _ => rfl

end ExtensionRegistry

end Flowgraph
