import Flowgraph.Proofs.Extension.Described
import Flowgraph.Proofs.Extension.Shape

namespace Flowgraph

open Json

def orKey (text : Option String) (key : String) : String :=
  match text with
  | some t => if t = "" then key else t
  | none => key

theorem getD_nonEmpty? (text : Option String) (key : String) :
    (nonEmpty? text).getD key = orKey text key := by
  cases text with
  | none => rfl
  | some t => by_cases empty : t = "" <;> simp [nonEmpty?, Option.filter, orKey, empty]

/-- A descriptor of nodes or rules, as an extension lists it. -/
inductive TypeEntry where
  | node (key : String) (d : NodeDescriptor)
  | rule (key : String) (d : RuleDescriptor)

namespace TypeEntry

def key : TypeEntry → String
  | .node key _ => key
  | .rule key _ => key

def common : TypeEntry → TypeDescriptor
  | .node _ d => d.toTypeDescriptor
  | .rule _ d => d.toTypeDescriptor

/-- The name under which the type is registered: its class name, or else its key. -/
def name (e : TypeEntry) : String := orKey e.common.className e.key

def type : TypeEntry → NodeType
  | .node key d => .ofNode key d
  | .rule key d => .ofRule key d

/-- The inputs for rules, which come first. -/
def ruleInputs : TypeEntry → List String
  | .node _ _ => ["in_rules", "out_rules"]
  | .rule _ _ => ["in_rules"]

def outputs : TypeEntry → List (String × Value)
  | .node _ d => d.output.toList.map fun o => (o.name, .string o.kind)
  | .rule _ _ => [("rule_group", .string "rule_group")]

def required (e : TypeEntry) : List (String × SlotDescriptor) :=
  e.common.slots.elim [] (·.required)

def optional (e : TypeEntry) : List (String × SlotDescriptor) :=
  e.common.slots.elim [] (·.optional)

/-- A type whose fresh nodes show what a descriptor lists, in that order, and hold nothing yet. -/
structure Shows (e : TypeEntry) (t : NodeType) : Prop where
  name : t.name = e.name
  type : t.template.type = e.name
  title : t.title = orKey e.common.displayName e.key ∧ t.template.title = t.title
  id : t.template.id = 0
  bare : t.template.Bare
  properties : t.template.properties = []
  inputs : t.template.inputs.map (fun s => (s.name, s.type)) =
    e.ruleInputs.map (·, .string "rule_group") ++
      (e.required ++ e.optional).map fun s => (orKey s.2.name s.1, .string s.2.kind)
  outputs : t.template.outputs.map (fun s => (s.name, s.type)) = e.outputs
  widgets : t.template.widgets.map (fun w => (w.name, w.kind, w.value)) =
    (e.required ++ e.optional).filterMap fun s =>
      s.2.widget.map fun w => (orKey w.name (orKey s.2.name s.1), w.kind, w.default)

theorem genuine_type (e : TypeEntry) : e.type.Genuine := by
  cases e with
  | node key d => exact .inl ⟨key, d, rfl⟩
  | rule key d => exact .inr ⟨key, d, rfl⟩

theorem allSlots_common (e : TypeEntry) : e.common.allSlots = e.required ++ e.optional := by
  unfold TypeDescriptor.allSlots required optional
  cases e.common.slots <;> rfl

theorem name_type (e : TypeEntry) : e.type.name = e.name := by
  cases e <;> exact getD_nonEmpty? _ _

theorem title_type (e : TypeEntry) : e.type.title = orKey e.common.displayName e.key := by
  cases e <;> exact getD_nonEmpty? _ _

theorem inputs_type (e : TypeEntry) :
    e.type.template.inputs.map (fun s => (s.name, s.type)) =
      e.ruleInputs.map (·, .string "rule_group") ++
        e.common.allSlots.map fun s => (orKey s.2.name s.1, .string s.2.kind) := by
  cases e <;> simp [type, NodeType.ofNode, NodeType.ofRule, TypeDescriptor.toType, ruleInputs,
    ruleInput, ruleGroup, common, SlotDescriptor.toInput, SlotDescriptor.nameFor, getD_nonEmpty?]

theorem outputs_type (e : TypeEntry) :
    e.type.template.outputs.map (fun s => (s.name, s.type)) = e.outputs := by
  cases e with
  | node key d =>
    simp only [type, NodeType.ofNode, TypeDescriptor.toType, outputs]
    cases d.output <;> rfl
  | rule key d => rfl

theorem widgets_type (e : TypeEntry) :
    e.type.template.widgets.map (fun w => (w.name, w.kind, w.value)) =
      e.common.allSlots.filterMap fun s =>
        s.2.widget.map fun w => (orKey w.name (orKey s.2.name s.1), w.kind, w.default) := by
  have listed : e.type.template.widgets =
      e.common.allSlots.filterMap fun s => s.2.toWidget? s.1 := by
    cases e <;> rfl
  rw [listed, List.map_filterMap]
  simp only [SlotDescriptor.toWidget?, SlotDescriptor.nameFor, getD_nonEmpty?, Option.map_map]
  rfl

theorem shows_type (e : TypeEntry) : e.Shows e.type where
  name := e.name_type
  type := e.genuine_type.type_template.trans e.name_type
  title := ⟨e.title_type, by cases e <;> rfl⟩
  id := by cases e <;> rfl
  bare := e.genuine_type.described.bare
  properties := e.genuine_type.described.blank.properties
  inputs := e.allSlots_common ▸ e.inputs_type
  outputs := e.outputs_type
  widgets := e.allSlots_common ▸ e.widgets_type

end TypeEntry

namespace ExtensionDescriptor

def typeEntries (d : ExtensionDescriptor) : List TypeEntry :=
  d.nodes.map (fun n => .node n.1 n.2) ++ d.rules.map fun r => .rule r.1 r.2

def extension (offered : SortedMap String Plugin) (d : ExtensionDescriptor) : Extension where
  name := d.name
  version := d.version
  description := d.description
  plugin := (nonEmpty? d.className).bind offered.find?
  nodes := .ofList d.nodes
  rules := .ofList d.rules

/-- An extension as a descriptor lists it, with the plugin on offer for its class, if any. -/
structure Shows (d : ExtensionDescriptor) (offered : SortedMap String Plugin) (x : Extension) :
    Prop where
  name : x.name = d.name
  version : x.version = d.version
  description : x.description = d.description
  plugin : ∀ p, x.plugin = some p ↔
    ∃ c, d.className = some c ∧ c ≠ "" ∧ offered.find? c = some p
  nodes : ∀ key n, x.nodes.find? key = some n ↔ (key, n) ∈ d.nodes
  rules : ∀ key n, x.rules.find? key = some n ↔ (key, n) ∈ d.rules

theorem nodup_entries {α : Type} {v : Value} (proper : v.Proper) (declared : List String)
    (name : String) (view : Value → α) :
    ((v.seen declared name [] (Value.entries view)).map Prod.fst).Nodup := by
  unfold Value.seen
  cases there : v.field? declared name with
  | none => exact .nil
  | some w =>
    have keys : ((w.entries view).map Prod.fst) = w.members.map Prod.fst := List.map_map
    have proper := proper.field? there
    rw [Option.elim_some, keys]
    cases proper with
    | object distinct _ => exact distinct
    | _ => exact .nil

theorem shows_extension {v : Value} (proper : v.Proper) (offered : SortedMap String Plugin) :
    (ofValue v).Shows offered ((ofValue v).extension offered) where
  name := rfl
  version := rfl
  description := rfl
  plugin p := by
    unfold extension nonEmpty?
    cases (ofValue v).className with
    | none => simp
    | some c => by_cases empty : c = "" <;> simp [Option.filter, empty]
  nodes _ _ := SortedMap.find?_ofList_eq_some_iff (nodup_entries proper _ _ _)
  rules _ _ := SortedMap.find?_ofList_eq_some_iff (nodup_entries proper _ _ _)

end ExtensionDescriptor

namespace ExtensionRegistry

variable {r : ExtensionRegistry}

def addAll (r : ExtensionRegistry) (ds : List (String × ExtensionDescriptor)) : ExtensionRegistry :=
  ds.foldl (fun r e => r.add e.1 e.2) r

theorem types_add (key : String) (d : ExtensionDescriptor) : (r.add key d).types =
    r.types.insertMany (d.typeEntries.map fun e => (e.name, e.type)) := by
  have types : typesOf d = d.typeEntries.map TypeEntry.type := by
    rw [typesOf, ExtensionDescriptor.typeEntries, List.map_append, List.map_map, List.map_map]
    rfl
  simp only [add, types, SortedMap.insertMany, List.foldl_map, TypeRegistry.register,
    TypeEntry.name_type]

theorem addAll_eq (ds : List (String × ExtensionDescriptor)) : r.addAll ds = {
    types := r.types.insertMany
      ((ds.flatMap fun e => e.2.typeEntries).map fun e => (e.name, e.type))
    extensions := r.extensions.insertMany (ds.map fun e => (e.1, e.2.extension r.offered))
    offered := r.offered } := by
  induction ds generalizing r with
  | nil => rfl
  | cons e ds ih =>
    have later := ih (r := r.add e.1 e.2)
    rw [List.flatMap_cons, List.map_append, SortedMap.insertMany_append, ← types_add e.1]
    exact later

theorem addAll_addAll_self (ds : List (String × ExtensionDescriptor)) :
    (r.addAll ds).addAll ds = r.addAll ds := by
  rw [addAll_eq ds, addAll_eq ds, SortedMap.insertMany_insertMany_self,
    SortedMap.insertMany_insertMany_self]

/-- Of all the descriptors of one name the last is registered. -/
theorem find?_types_addAll (ds : List (String × ExtensionDescriptor)) (name : String) :
    (r.addAll ds).types.find? name =
      (((ds.flatMap fun e => e.2.typeEntries).filter (·.name = name)).getLast?.map (·.type)).or
        (r.types.find? name) := by
  rw [addAll_eq]
  exact r.types.find?_insertMany_map _ TypeEntry.name TypeEntry.type name

theorem find?_extensions_addAll (ds : List (String × ExtensionDescriptor)) (key : String) :
    (r.addAll ds).extensions.find? key =
      ((ds.filter (·.1 = key)).getLast?.map fun e => e.2.extension r.offered).or
        (r.extensions.find? key) := by
  rw [addAll_eq]
  exact r.extensions.find?_insertMany_map ds Prod.fst (fun e => e.2.extension r.offered) key

theorem name_of_find?_types_addAll {ds : List (String × ExtensionDescriptor)}
    (own : ∀ name t, r.types.find? name = some t → t.name = name) {name : String} {t : NodeType}
    (found : (r.addAll ds).types.find? name = some t) : t.name = name := by
  rw [find?_types_addAll, Option.or_eq_some_iff] at found
  rcases found with new | ⟨_, old⟩
  · obtain ⟨e, last, rfl⟩ := Option.map_eq_some_iff.1 new
    have named := (List.mem_filter.1 (List.mem_of_getLast? last)).2
    exact e.name_type.trans (of_decide_eq_true named)
  · exact own name t old

theorem load_eq (v : Value) : r.load v = (descriptors v).map r.addAll := by
  unfold load
  cases descriptors v <;> rfl

theorem load_eq_ok_iff {v : Value} (proper : v.Proper) {r' : ExtensionRegistry} :
    r.load v = .ok r' ↔ shape v = true ∧ r' = r.addAll (listedIn v) := by
  rw [load_eq]
  cases fits : shape v with
  | true =>
    rw [descriptors_of_fits proper fits, Except.map, Except.ok.injEq]
    exact ⟨fun same => ⟨rfl, same.symm⟩, fun h => h.2.symm⟩
  | false =>
    rw [descriptors_of_misfit proper fits]
    exact ⟨nofun, nofun⟩

theorem load_of_loaded {v : Value} {r' : ExtensionRegistry} (ok : r.load v = .ok r') :
    r'.load v = .ok r' := by
  rw [load_eq] at ok ⊢
  cases read : descriptors v with
  | error e =>
    rw [read] at ok
    cases ok
  | ok ds =>
    rw [read] at ok
    cases ok
    exact congrArg Except.ok (addAll_addAll_self ds)

/-- The registry after an attempt to load a document. -/
def attempt (r : ExtensionRegistry) (v : Value) : ExtensionRegistry :=
  match r.load v with
  | .ok r' => r'
  | .error _ => r

def attemptAll (r : ExtensionRegistry) (vs : List Value) : ExtensionRegistry := vs.foldl attempt r

theorem attempt_of_fits {v : Value} (proper : v.Proper) (fits : shape v = true) :
    r.attempt v = r.addAll (listedIn v) := by
  rw [attempt, (load_eq_ok_iff proper).2 ⟨fits, rfl⟩]

theorem attempt_of_misfit {v : Value} (proper : v.Proper) (misfit : shape v = false) :
    r.attempt v = r := by
  rw [attempt, load_eq, descriptors_of_misfit proper misfit]
  rfl

theorem attemptAll_eq {vs : List Value} (proper : ∀ v ∈ vs, v.Proper) :
    r.attemptAll vs = r.addAll ((vs.filter shape).flatMap listedIn) := by
  induction vs generalizing r with
  | nil => rfl
  | cons v vs ih =>
    obtain ⟨first, rest⟩ := List.forall_mem_cons.1 proper
    have later := ih (r := r.attempt v) rest
    cases fits : shape v with
    | true =>
      rw [attempt_of_fits first fits, addAll, addAll, ← List.foldl_append] at later
      rw [List.filter_cons_of_pos fits, List.flatMap_cons, attemptAll, List.foldl_cons,
        attempt_of_fits first fits]
      exact later
    | false =>
      rw [List.filter_cons_of_neg (Bool.eq_false_iff.1 fits), attemptAll, List.foldl_cons,
        attempt_of_misfit first fits]
      rw [attempt_of_misfit first fits] at later
      exact later

theorem shows_of_mem_listedIn {v : Value} (proper : v.Proper)
    {e : String × ExtensionDescriptor} (mem : e ∈ listedIn v)
    (offered : SortedMap String Plugin) : e.2.Shows offered (e.2.extension offered) := by
  obtain ⟨m, hm, rfl⟩ := List.mem_map.1 mem
  cases proper with
  | object _ each => exact ExtensionDescriptor.shows_extension (each m hm) offered
  | _ => cases hm

/-- Documents that are refused leave no trace. -/
theorem attemptAll_filter {vs : List Value} (proper : ∀ v ∈ vs, v.Proper) :
    r.attemptAll (vs.filter shape) = r.attemptAll vs := by
  have kept : ∀ v ∈ vs.filter shape, v.Proper := fun v hv => proper v (List.mem_filter.1 hv).1
  have again : (vs.filter shape).filter shape = vs.filter shape :=
    List.filter_eq_self.2 fun v hv => (List.mem_filter.1 hv).2
  rw [attemptAll_eq kept, attemptAll_eq proper, again]

/-- After attempts to load documents, a type is what the last descriptor of its name says, of the
descriptors of all the documents in which nothing is misshapen, and an extension is what the last
one listed under its key says. Other documents change nothing, and neither does one that is loaded
again. -/
theorem last_descriptor_counts (r : ExtensionRegistry) {vs : List Value}
    (proper : ∀ v ∈ vs, v.Proper) :
    let r' := r.attemptAll vs
    let loadable := vs.filter shape
    let listed := loadable.flatMap listedIn
    let types := listed.flatMap fun e => e.2.typeEntries
    (∀ v ∈ vs, ∀ q : ExtensionRegistry, (∃ q', q.load v = .ok q') ↔ shape v = true) ∧
    r' = r.attemptAll loadable ∧
    r'.offered = r.offered ∧
    (∀ name, r'.types.find? name =
      ((types.filter (·.name = name)).getLast?.map (·.type)).or (r.types.find? name)) ∧
    (∀ e ∈ types, e.Shows e.type) ∧
    (∀ key, (listed.filter (·.1 = key)).getLast? = none →
      r'.extensions.find? key = r.extensions.find? key) ∧
    (∀ key e, (listed.filter (·.1 = key)).getLast? = some e →
      ∃ x, r'.extensions.find? key = some x ∧ e.2.Shows r.offered x) ∧
    ((∀ name t, r.types.find? name = some t → t.name = name) →
      ∀ name t, r'.types.find? name = some t → t.name = name) ∧
    ∀ (q q' : ExtensionRegistry) v, q.load v = .ok q' → q'.load v = .ok q' := by
  intro r' loadable listed types
  have all : r' = r.addAll listed := attemptAll_eq proper
  rw [all]
  refine ⟨?_, all.symm.trans (attemptAll_filter proper).symm, ?_, r.find?_types_addAll listed,
    fun e _ => e.shows_type, ?_, ?_, ?_, fun _ _ _ ok => load_of_loaded ok⟩
  · intro v hv q
    constructor
    · rintro ⟨q', ok⟩
      exact ((load_eq_ok_iff (proper v hv)).1 ok).1
    · intro fits
      exact ⟨_, (load_eq_ok_iff (proper v hv)).2 ⟨fits, rfl⟩⟩
  · rw [addAll_eq]
  · intro key absent
    rw [find?_extensions_addAll, absent]
    rfl
  · intro key e last
    obtain ⟨v, hv, mem⟩ := List.mem_flatMap.1 (List.mem_filter.1 (List.mem_of_getLast? last)).1
    have proper : v.Proper := proper v (List.mem_filter.1 hv).1
    refine ⟨e.2.extension r.offered, ?_, shows_of_mem_listedIn proper mem r.offered⟩
    rw [find?_extensions_addAll, last]
    rfl
  · intro own name t found
    exact name_of_find?_types_addAll own found

/-- The second document is refused for the name of a slot in its second extension; of two types of
the third one that have one name, the rule counts. -/
theorem rule_counts_after_refusal :
    let named (name : String) : Value := .object [("javascript_class_name", .string name)]
    let maths : Value := .object [("nodes", .object [("add", named "Add")]),
      ("javascript_class_name", .string "Maths")]
    let slot : Value := .object [("name", .ofInt 5)]
    let misshapen : Value := .object [("nodes", .object [("n", .object [("input",
      .object [("required_inputs", .object [("slot", slot)])])])])]
    let sums : Value := .object [
      ("rules", .object [("Add", .object [("display_name", .string "Sum")])]),
      ("nodes", .object [("x", named "Add")])]
    let refused : Value := .object [("maths", .object []), ("broken", misshapen)]
    let vs := [.object [("maths", maths)], refused, .object [("sums", sums)]]
    let r := ExtensionRegistry.offer {} ⟨"Maths", id⟩
    let r' := r.attemptAll vs
    (∀ v ∈ vs, v.Proper) ∧ (∀ q q' : ExtensionRegistry, q.load refused ≠ .ok q') ∧
      (r'.types.find? "Add").map (fun t => (t.kind, t.title)) = some (.rule, "Sum") ∧
      ∃ x p, r'.extensions.find? "maths" = some x ∧ x.plugin = some p := by
  intro named maths slot misshapen sums refused vs r r'
  have back {v : Value} (read : v.toDocument.value? = some v) : v.Proper := proper_of_value? read
  have proper : ∀ v ∈ vs, v.Proper := by
    intro v hv
    simp only [vs, List.mem_cons, List.not_mem_nil, or_false] at hv
    rcases hv with rfl | rfl | rfl
    · exact back rfl
    · exact back rfl
    · exact back rfl
  obtain ⟨fit, _, _, types, _, _, extensions, _, _⟩ := last_descriptor_counts r proper
  refine ⟨proper, ?_, ?_, ?_⟩
  · intro q q' ok
    have fits := (fit refused (by simp [vs]) q).1 ⟨q', ok⟩
    cases fits
  · rw [types]
    decide +kernel
  · obtain ⟨x, found, shows⟩ := extensions "maths" _ rfl
    exact ⟨x, _, found, (shows.plugin _).2 ⟨"Maths", rfl, by decide, rfl⟩⟩

end ExtensionRegistry

end Flowgraph
