import Flowgraph.Extension.Registry

namespace Flowgraph

open Json

structure Node.Bare (n : Node) : Prop where
  inputs : ∀ s ∈ n.inputs, s.link = none
  outputs : ∀ s ∈ n.outputs, s.links = []

/-- The nodes of a type look as some descriptor of a node or a rule says. -/
def NodeType.Described (t : NodeType) : Prop :=
  (∃ key d, t.template = (ofNode key d).template) ∨
    ∃ key d, t.template = (ofRule key d).template

def TypeRegistry.Described (r : TypeRegistry) : Prop :=
  ∀ name t, r.find? name = some t → t.Described

theorem NodeType.Described.bare {t : NodeType} (h : t.Described) : t.template.Bare := by
  rcases h with ⟨key, d, eq⟩ | ⟨key, d, eq⟩
  · rw [eq]
    constructor
    · intro s hs
      simp only [ofNode, TypeDescriptor.toType, List.mem_append, List.mem_cons, List.not_mem_nil,
        or_false, List.mem_map] at hs
      rcases hs with (rfl | rfl) | ⟨⟨k, slot⟩, _, rfl⟩ <;> rfl
    · intro s hs
      simp only [ofNode, TypeDescriptor.toType] at hs
      cases output : d.output with
      | none => simp [output] at hs
      | some o =>
        simp only [output, List.mem_singleton] at hs
        rw [hs]
  · rw [eq]
    constructor
    · intro s hs
      simp only [ofRule, TypeDescriptor.toType, List.mem_append, List.mem_singleton,
        List.mem_map] at hs
      rcases hs with rfl | ⟨⟨k, slot⟩, _, rfl⟩ <;> rfl
    · intro s hs
      simp only [ofRule, TypeDescriptor.toType, List.mem_singleton] at hs
      rw [hs]

def NodeType.Genuine (t : NodeType) : Prop :=
  (∃ key d, t = ofNode key d) ∨ ∃ key d, t = ofRule key d

/-- The nodes of every type look as some descriptor says, and go by the name under which the type is
registered. -/
def TypeRegistry.Genuine (r : TypeRegistry) : Prop :=
  ∀ name t, r.find? name = some t → t.template.type = name ∧ t.Described

theorem NodeType.Genuine.described {t : NodeType} (h : t.Genuine) : t.Described := by
  rcases h with ⟨key, d, rfl⟩ | ⟨key, d, rfl⟩
  · exact .inl ⟨key, d, rfl⟩
  · exact .inr ⟨key, d, rfl⟩

theorem NodeType.Genuine.type_template {t : NodeType} (h : t.Genuine) :
    t.template.type = t.name := by
  rcases h with ⟨key, d, rfl⟩ | ⟨key, d, rfl⟩ <;> rfl

/-- A node of which nothing is said but its type and what the type shows. -/
structure Node.Blank (name : String) (n : Node) : Prop where
  type : n.type = name
  properties : n.properties = []
  color : n.color = none
  bodyColor : n.bodyColor = none
  remembered : n.remembered = none

theorem NodeType.Described.blank {t : NodeType} (h : t.Described) :
    t.template.Blank t.template.type := by
  rcases h with ⟨key, d, eq⟩ | ⟨key, d, eq⟩ <;> rw [eq] <;> exact ⟨rfl, rfl, rfl, rfl, rfl⟩

namespace TypeRegistry

/-- What a node of a type looks like at first; a type that is not registered shows nothing. -/
def blank (r : TypeRegistry) (name : String) : Node :=
  ((r.find? name).map (·.template)).getD { type := name }

theorem blank_of_find? {r : TypeRegistry} {name : String} {t : NodeType}
    (found : r.find? name = some t) : r.blank name = t.template := by
  simp [blank, found]

theorem blank_of_absent {r : TypeRegistry} {name : String} (absent : r.find? name = none) :
    r.blank name = { type := name } := by
  simp [blank, absent]

theorem Described.empty : Described .empty := by
  intro name t found
  cases found

theorem Genuine.empty : Genuine .empty := by
  intro name t found
  cases found

theorem Genuine.described {r : TypeRegistry} (h : r.Genuine) : r.Described :=
  fun name t found => (h name t found).2

theorem Genuine.blank {r : TypeRegistry} (h : r.Genuine) (name : String) :
    (r.blank name).Blank name := by
  cases found : r.find? name with
  | none =>
    rw [blank_of_absent found]
    exact ⟨rfl, rfl, rfl, rfl, rfl⟩
  | some t =>
    obtain ⟨rfl, described⟩ := h name t found
    rw [blank_of_find? found]
    exact described.blank

theorem Genuine.register {r : TypeRegistry} (h : r.Genuine) {t : NodeType} (ht : t.Genuine) :
    (r.register t).Genuine := by
  intro name t' found
  simp only [TypeRegistry.register, SortedMap.find?_insert] at found
  split at found
  · next same =>
    cases found
    exact ⟨ht.type_template.trans same.symm, ht.described⟩
  · exact h name t' found

theorem Genuine.registerAll {r : TypeRegistry} (h : r.Genuine) {ts : List NodeType}
    (hts : ∀ t ∈ ts, t.Genuine) : (ts.foldl TypeRegistry.register r).Genuine := by
  induction ts generalizing r with
  | nil => exact h
  | cons t ts ih =>
    exact ih (h.register (hts t List.mem_cons_self)) fun t' ht' =>
      hts t' (List.mem_cons_of_mem _ ht')

end TypeRegistry

namespace ExtensionRegistry

variable {r r' : ExtensionRegistry}

theorem genuine_of_mem_typesOf {d : ExtensionDescriptor} {t : NodeType} (ht : t ∈ typesOf d) :
    t.Genuine := by
  simp only [typesOf, List.mem_append, List.mem_map] at ht
  rcases ht with ⟨⟨k, n⟩, _, rfl⟩ | ⟨⟨k, n⟩, _, rfl⟩
  · exact .inl ⟨k, n, rfl⟩
  · exact .inr ⟨k, n, rfl⟩

theorem genuine_add (h : r.types.Genuine) (key : String) (d : ExtensionDescriptor) :
    (r.add key d).types.Genuine :=
  h.registerAll fun _ ht => genuine_of_mem_typesOf ht

/-- Whatever documents are loaded, registered types come from descriptors. -/
theorem genuine_load (h : r.types.Genuine) {v : Value} (ok : r.load v = .ok r') :
    r'.types.Genuine := by
  unfold load at ok
  cases read : descriptors v with
  | error e =>
    rw [read] at ok
    cases ok
  | ok ds =>
    rw [read] at ok
    cases ok
    clear read
    induction ds generalizing r with
    | nil => exact h
    | cons e ds ih => exact ih (genuine_add h e.1 e.2)

end ExtensionRegistry

end Flowgraph
