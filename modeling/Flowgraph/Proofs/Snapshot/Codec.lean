import Flowgraph.Proofs.Json.Record
import Flowgraph.Snapshot.Codec

namespace Flowgraph

open Json

structure Link.Proper (l : Link) : Prop where
  id : IsWord l.id
  origin : IsWord l.origin
  originSlot : l.originSlot < Nat.pow 2 64
  target : IsWord l.target
  targetSlot : l.targetSlot < Nat.pow 2 64
  type : l.type.Proper

structure InputSlot.Proper (s : InputSlot) : Prop where
  type : s.type.Proper
  link : ∀ k ∈ s.link, IsWord k
  extra : s.extra.Spare declared

structure OutputSlot.Proper (s : OutputSlot) : Prop where
  type : s.type.Proper
  links : ∀ k ∈ s.links, IsWord k
  extra : s.extra.Spare declared

structure NodeRecord.Proper (n : NodeRecord) : Prop where
  id : IsWord n.id
  mode : n.mode < Nat.pow 2 8
  inputs : ∀ s ∈ n.inputs, s.Proper
  outputs : ∀ s ∈ n.outputs, s.Proper
  properties : n.properties.Proper
  widgetValues : ∀ v ∈ n.widgetValues, v.Proper
  layout : n.layout.Spare declared

/-- A snapshot whose numbers are words, whose objects repeat no keys, and whose records carry along
no members under the names that they declare. -/
structure Snapshot.Proper (s : Snapshot) : Prop where
  lastNode : IsWord s.lastNode
  lastLink : IsWord s.lastLink
  nodes : ∀ n ∈ s.nodes, n.Proper
  links : ∀ l ∈ s.links, l.Proper
  groups : ∀ v ∈ s.groups, v.Proper
  config : s.config.Proper
  extra : s.extra.Proper
  other : s.other.Spare declared

theorem Link.faithful : Faithful Link.Proper Link.encode Link.decode? where
  back σ l p := by
    have id := Faithful.word.back σ l.id p.id
    have origin := Faithful.word.back σ l.origin p.origin
    have originSlot := (Faithful.nat 64).back σ l.originSlot p.originSlot
    have target := Faithful.word.back σ l.target p.target
    have targetSlot := (Faithful.nat 64).back σ l.targetSlot p.targetSlot
    have type := p.type.value? σ
    simp only [encode, Value.spelled, Value.spelledItems, decode?, id, origin, originSlot,
      target, targetSlot, type]
    rfl
  sound d l read := by
    unfold decode? at read
    split at read
    · simp only [Option.bind_eq_bind, Option.bind_eq_some_iff, Option.some.injEq] at read
      obtain ⟨_, id, _, origin, _, originSlot, _, target, _, targetSlot, _, type, rfl⟩ := read
      exact ⟨Faithful.word.sound _ _ id, Faithful.word.sound _ _ origin,
        (Faithful.nat 64).sound _ _ originSlot, Faithful.word.sound _ _ target,
        (Faithful.nat 64).sound _ _ targetSlot, proper_of_value? type⟩
    · cases read

namespace InputSlot

def fields (s : InputSlot) : List (String × Option Value) :=
  [("name", some (.string s.name)), ("type", some s.type),
    ("link", some ((s.link.map .ofInt).getD .null))]

theorem faithful : Faithful InputSlot.Proper InputSlot.encode InputSlot.decode? where
  back σ s p := by
    have w : Written declared s.fields s.extra := ⟨rfl, by decide, p.extra⟩
    have name := w.required σ .string "name" s.name trivial (by simp [fields])
    have type := w.defaulted σ .value "type" s.type .null p.type (by simp [fields])
    have link := w.optional σ .word "link" s.link p.link nofun (by simp [fields])
    have written : (s.encode.spelled σ).fields? =
      some (Value.spelledMembers σ (Members.present s.fields ++ s.extra)) := rfl
    simp only [decode?, written, Option.bind_eq_bind, Option.bind_some, name, type, link,
      w.others σ]
  sound d s read := by
    simp only [decode?, Option.bind_eq_bind, Option.bind_eq_some_iff, Option.some.injEq] at read
    obtain ⟨fs, _, _, _, _, type, _, link, _, extra, rfl⟩ := read
    exact ⟨Faithful.value.of_defaulted .null type, Faithful.word.of_optional link,
      Members.spare_of_others extra⟩

end InputSlot

namespace OutputSlot

def fields (s : OutputSlot) : List (String × Option Value) :=
  [("name", some (.string s.name)), ("type", some s.type),
    ("links", some (.array (s.links.map .ofInt)))]

theorem faithful : Faithful OutputSlot.Proper OutputSlot.encode OutputSlot.decode? where
  back σ s p := by
    have w : Written declared s.fields s.extra := ⟨rfl, by decide, p.extra⟩
    have name := w.required σ .string "name" s.name trivial (by simp [fields])
    have type := w.defaulted σ .value "type" s.type .null p.type (by simp [fields])
    have links := w.optional σ (.list .word) "links" (some s.links)
      (fun _ same => Option.some.inj same ▸ p.links) nofun (by simp [fields])
    have written : (s.encode.spelled σ).fields? =
      some (Value.spelledMembers σ (Members.present s.fields ++ s.extra)) := rfl
    simp only [decode?, written, Option.bind_eq_bind, Option.bind_some, name, type, links,
      w.others σ, Option.getD_some]
  sound d s read := by
    simp only [decode?, Option.bind_eq_bind, Option.bind_eq_some_iff, Option.some.injEq] at read
    obtain ⟨fs, _, _, _, _, type, stored, links, _, extra, rfl⟩ := read
    refine ⟨Faithful.value.of_defaulted .null type, ?_, Members.spare_of_others extra⟩
    cases stored with
    | none => exact fun _ hk => absurd hk List.not_mem_nil
    | some ks => exact (Faithful.list .word).of_optional links ks rfl

end OutputSlot

namespace NodeRecord

/-- The fields of a node, those that are left out included. -/
def fields (n : NodeRecord) : List (String × Option Value) :=
  [("id", some (.ofInt n.id)), ("type", some (.string n.type)), ("title", n.title.map .string),
    ("mode", some (.ofInt n.mode)), ("inputs", some (.array (n.inputs.map InputSlot.encode))),
    ("outputs", some (.array (n.outputs.map OutputSlot.encode))),
    ("properties", some (.object n.properties)),
    ("widgets_values", if n.widgetValues.isEmpty then none else some (.array n.widgetValues)),
    ("color", n.color.map .string), ("bgcolor", n.bodyColor.map .string)]

theorem encode_eq (n : NodeRecord) :
    n.encode = .object (Members.present n.fields ++ n.layout) := by
  -- Four fields are left out where there is nothing in them.
  obtain ⟨id, type, title, mode, inputs, outputs, properties, values, color, bodyColor, layout⟩ := n
  cases title <;> cases values <;> cases color <;> cases bodyColor <;> rfl

theorem faithful : Faithful NodeRecord.Proper NodeRecord.encode NodeRecord.decode? where
  back σ n p := by
    have w : Written declared n.fields n.layout := ⟨rfl, by decide, p.layout⟩
    have id := w.required σ .word "id" n.id p.id (by simp [fields])
    have type := w.required σ .string "type" n.type trivial (by simp [fields])
    have title := w.optional σ .string "title" n.title (fun _ _ => trivial) nofun (by simp [fields])
    have mode := w.defaulted σ (.nat 8) "mode" n.mode 0 p.mode (by simp [fields])
    have inputs := w.defaulted σ (.list InputSlot.faithful) "inputs" n.inputs [] p.inputs
      (by simp [fields])
    have outputs := w.defaulted σ (.list OutputSlot.faithful) "outputs" n.outputs [] p.outputs
      (by simp [fields])
    have properties := w.defaulted σ .object "properties" n.properties [] p.properties
      (by simp [fields])
    have values := w.defaulted σ (.list .value) "widgets_values" n.widgetValues [] p.widgetValues
      (by cases values : n.widgetValues <;> simp [fields, values])
    have color := w.optional σ .string "color" n.color (fun _ _ => trivial) nofun (by simp [fields])
    have bodyColor := w.optional σ .string "bgcolor" n.bodyColor (fun _ _ => trivial) nofun
      (by simp [fields])
    have written : (n.encode.spelled σ).fields? =
        some (Value.spelledMembers σ (Members.present n.fields ++ n.layout)) := by
      rw [encode_eq]
      rfl
    simp only [decode?, written, Option.bind_eq_bind, Option.bind_some, id, type, title, mode,
      inputs, outputs, properties, values, color, bodyColor, w.others σ]
  sound d n read := by
    simp only [decode?, Option.bind_eq_bind, Option.bind_eq_some_iff, Option.some.injEq] at read
    obtain ⟨fs, _, _, id, _, _, _, _, _, mode, _, inputs, _, outputs, _, properties, _, values, _,
      _, _, _, _, layout, rfl⟩ := read
    constructor
    case id => exact Faithful.word.of_required id
    case mode => exact (Faithful.nat 8).of_defaulted (by decide) mode
    case inputs =>
      exact (Faithful.list InputSlot.faithful).of_defaulted (List.forall_mem_nil _)
        inputs
    case outputs =>
      exact (Faithful.list OutputSlot.faithful).of_defaulted (List.forall_mem_nil _)
        outputs
    case properties => exact Faithful.object.of_defaulted .nil properties
    case widgetValues =>
      exact (Faithful.list .value).of_defaulted (List.forall_mem_nil _) values
    case layout => exact Members.spare_of_others layout

end NodeRecord

namespace Snapshot

theorem faithful_version : Faithful (fun _ => True) Value.string decodeVersion? where
  back _ _ _ := rfl
  sound _ _ _ := trivial

def fields (s : Snapshot) : List (String × Option Value) :=
  [("last_node_id", some (.ofInt s.lastNode)), ("last_link_id", some (.ofInt s.lastLink)),
    ("nodes", some (.array (s.nodes.map NodeRecord.encode))),
    ("links", some (.array (s.links.map Link.encode))), ("groups", some (.array s.groups)),
    ("config", some (.object s.config)), ("extra", some (.object s.extra)),
    ("NeoScaffoldVersion", some (.string s.version)), ("checksum", some (.string s.checksum))]

theorem faithful : Faithful Snapshot.Proper Snapshot.encode Snapshot.decode? where
  back σ s p := by
    have w : Written declared s.fields s.other := ⟨rfl, by decide, p.other⟩
    have lastNode := w.defaulted σ .word "last_node_id" s.lastNode 0 p.lastNode (by simp [fields])
    have lastLink := w.defaulted σ .word "last_link_id" s.lastLink 0 p.lastLink (by simp [fields])
    have nodes := w.defaulted σ (.list NodeRecord.faithful) "nodes" s.nodes [] p.nodes
      (by simp [fields])
    have links := w.defaulted σ (.list Link.faithful) "links" s.links [] p.links (by simp [fields])
    have groups := w.defaulted σ (.list .value) "groups" s.groups [] p.groups (by simp [fields])
    have config := w.defaulted σ .object "config" s.config [] p.config (by simp [fields])
    have extra := w.defaulted σ .object "extra" s.extra [] p.extra (by simp [fields])
    have tag := w.defaulted σ faithful_version "NeoScaffoldVersion" s.version "" trivial
      (by simp [fields])
    have checksum := w.defaulted σ .string "checksum" s.checksum "" trivial (by simp [fields])
    have written : (s.encode.spelled σ).fields? =
      some (Value.spelledMembers σ (Members.present s.fields ++ s.other)) := rfl
    simp only [decode?, written, Option.bind_eq_bind, Option.bind_some, lastNode, lastLink, nodes,
      links, groups, config, extra, tag, checksum, w.others σ]
  sound d s read := by
    simp only [decode?, Option.bind_eq_bind, Option.bind_eq_some_iff, Option.some.injEq] at read
    obtain ⟨fs, _, _, lastNode, _, lastLink, _, nodes, _, links, _, groups, _, config, _, extra, _,
      _, _, _, _, other, rfl⟩ := read
    constructor
    case lastNode => exact Faithful.word.of_defaulted (by decide) lastNode
    case lastLink => exact Faithful.word.of_defaulted (by decide) lastLink
    case nodes =>
      exact (Faithful.list NodeRecord.faithful).of_defaulted
        (List.forall_mem_nil _) nodes
    case links =>
      exact (Faithful.list Link.faithful).of_defaulted (List.forall_mem_nil _) links
    case groups =>
      exact (Faithful.list .value).of_defaulted (List.forall_mem_nil _) groups
    case config => exact Faithful.object.of_defaulted .nil config
    case extra => exact Faithful.object.of_defaulted .nil extra
    case other => exact Members.spare_of_others other

end Snapshot

end Flowgraph
