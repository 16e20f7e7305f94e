import Flowgraph.Proofs.Extension.Described
import Flowgraph.Proofs.Graph.WellFormed

namespace Flowgraph

open Json

/-- What a widget is, whatever its value. -/
def Widget.label (w : Widget) : String × String × Bool := (w.name, w.kind, w.compiled)

structure Node.Fits (types : TypeRegistry) (n : Node) : Prop where
  inputs : n.inputs = [] → (types.blank n.type).inputs = []
  outputs : n.outputs = [] → (types.blank n.type).outputs = []
  widgets : n.widgets.map Widget.label = (types.blank n.type).widgets.map Widget.label
  properties : Members.Distinct n.properties

/-- An edit puts values into the widgets of a node, but no others in their place. -/
def NodeEdit.KeepsWidgets (n : Node) : NodeEdit → Prop
  | .widgets ws => ws.map Widget.label = n.widgets.map Widget.label
  | _ => True

/-- Nodes that are added are fresh ones of the registered types, snapshots are read with these
types, and edits keep the widgets. -/
def Operation.Under (types : TypeRegistry) (g : Graph) : Operation → Prop
  | .addNode n => ∃ t, types.find? n.type = some t ∧ n = { t.template with id := n.id }
  | .configure _ types' => types' = types
  | .load _ r => r.types = types
  | .edit id e => ∀ n, g.node? id = some n → e.KeepsWidgets n
  | _ => True

theorem fillWidgets_labels (ws : List Widget) (vs : List Value) :
    (fillWidgets ws vs).1.map Widget.label = ws.map Widget.label := by
  induction ws generalizing vs with
  | nil => rfl
  | cons w ws ih =>
    cases vs with
    | nil => rfl
    | cons v vs => exact congrArg (w.label :: ·) (ih vs)

namespace Node

variable {types : TypeRegistry} {n : Node}

theorem fits_template {t : NodeType} (genuine : types.Genuine) {name : String}
    (found : types.find? name = some t) (id : NodeId) :
    Fits types { t.template with id := id } := by
  have blank := genuine.blank name
  rw [TypeRegistry.blank_of_find? found] at blank
  have same : types.blank t.template.type = t.template := by
    rw [blank.type, TypeRegistry.blank_of_find? found]
  constructor
  case inputs =>
    intro none
    rw [same]
    exact none
  case outputs =>
    intro none
    rw [same]
    exact none
  case widgets => rw [same]
  case properties =>
    rw [blank.properties]
    exact .nil

theorem fits_toNode (genuine : types.Genuine) (n : NodeRecord) : Fits types (n.toNode types) := by
  have blank := genuine.blank n.type
  have same : types.blank (n.toNode types).type = types.blank n.type :=
    congrArg types.blank blank.type
  constructor
  case inputs =>
    rw [same]
    intro none
    by_cases empty : n.inputs.isEmpty = true
    · exact (if_pos empty).symm.trans none
    · exact absurd (List.isEmpty_iff.2 ((if_neg empty).symm.trans none)) empty
  case outputs =>
    rw [same]
    intro none
    by_cases empty : n.outputs.isEmpty = true
    · exact (if_pos empty).symm.trans none
    · exact absurd (List.isEmpty_iff.2 ((if_neg empty).symm.trans none)) empty
  case widgets =>
    rw [same]
    exact fillWidgets_labels _ _
  case properties =>
    change Members.Distinct (Members.putAll (types.blank n.type).properties n.properties)
    rw [blank.properties]
    exact .ofList _

theorem Fits.modifyInputs (fit : n.Fits types) (slot : Nat) (f : InputSlot → InputSlot) :
    Fits types { n with inputs := n.inputs.modify slot f } :=
  ⟨fun none => fit.inputs (List.modify_eq_nil_iff.1 none), fit.outputs, fit.widgets, fit.properties⟩

theorem Fits.modifyOutputs (fit : n.Fits types) (slot : Nat) (f : OutputSlot → OutputSlot) :
    Fits types { n with outputs := n.outputs.modify slot f } :=
  ⟨fit.inputs, fun none => fit.outputs (List.modify_eq_nil_iff.1 none), fit.widgets, fit.properties⟩

theorem Fits.report (fit : n.Fits types) {f : Node → Node} (reports : Reports f) :
    (f n).Fits types := by
  obtain ⟨_, _, _, _, eq, distinct⟩ := reports n
  rw [eq]
  exact ⟨fit.inputs, fit.outputs, fit.widgets, distinct fit.properties⟩

theorem setWidget_labels (n : Node) (name : String) (value : Value) :
    (n.setWidget name value).widgets.map Widget.label = n.widgets.map Widget.label := by
  unfold setWidget
  split
  · apply List.ext_getElem?
    intro i
    simp only [List.getElem?_map, List.getElem?_modify]
    cases n.widgets[i]? with
    | none => rfl
    | some w =>
      simp only [Option.map_eq_map, Option.map_some]
      split <;> rfl
  · rfl

theorem Fits.edit (fit : n.Fits types) {e : NodeEdit} (keeps : e.KeepsWidgets n) :
    (e.apply n).Fits types := by
  cases e with
  | widget name value =>
    have labels := (n.setWidget_labels name value).trans fit.widgets
    simp only [NodeEdit.apply, setWidget] at labels ⊢
    split
    · next i found =>
      rw [found] at labels
      exact ⟨fit.inputs, fit.outputs, labels, fit.properties⟩
    · exact fit
  | widgets ws => exact ⟨fit.inputs, fit.outputs, keeps.trans fit.widgets, fit.properties⟩
  | _ => exact ⟨fit.inputs, fit.outputs, fit.widgets, fit.properties⟩

end Node

namespace Graph

variable {types : TypeRegistry} {g g' : Graph} {op : Operation}

def Fits (types : TypeRegistry) (g : Graph) : Prop := ∀ n ∈ g.nodes, n.Fits types

theorem Fits.modifyNode (fit : g.Fits types) {id : NodeId} {f : Node → Node}
    (keep : ∀ n, g.node? id = some n → n.Fits types → (f n).Fits types) :
    (g.modifyNode id f).Fits types := by
  intro n hn
  unfold Graph.modifyNode at hn
  split at hn
  · next i found =>
    obtain ⟨j, hj⟩ := List.mem_iff_getElem?.1 hn
    rw [List.getElem?_modify] at hj
    obtain ⟨m, hm, rfl⟩ := Option.map_eq_some_iff.1 hj
    have old := fit m (List.mem_of_getElem? hm)
    split
    · next same =>
      subst same
      exact keep m (by simp [node?, found, hm]) old
    · exact old
  · exact fit n hn

theorem Fits.modifyInput (fit : g.Fits types) (id : NodeId) (slot : Nat)
    (f : InputSlot → InputSlot) : (g.modifyInput id slot f).Fits types :=
  fit.modifyNode fun _ _ old => old.modifyInputs slot f

theorem Fits.modifyOutput (fit : g.Fits types) (id : NodeId) (slot : Nat)
    (f : OutputSlot → OutputSlot) : (g.modifyOutput id slot f).Fits types :=
  fit.modifyNode fun _ _ old => old.modifyOutputs slot f

theorem Fits.detachLink (fit : g.Fits types) (id : LinkId) : (g.detachLink id).1.Fits types := by
  unfold Graph.detachLink
  split
  · exact fit
  · have erased : Fits types { g with links := g.links.erase id } := fit
    exact (erased.modifyOutput _ _ _).modifyInput _ _ _

theorem Fits.isolate (fit : g.Fits types) (id : NodeId) : (g.isolate id).Fits types := by
  unfold Graph.isolate
  generalize g.linksAt id = ids
  induction ids generalizing g with
  | nil => exact fit
  | cons k ids ih => exact ih (fit.detachLink k)

theorem Fits.disconnectInput (fit : g.Fits types) (target : NodeId) (slot : Nat) :
    (g.disconnectInput target slot).1.Fits types := by
  unfold Graph.disconnectInput
  split
  · exact fit
  · exact fit.detachLink _

theorem Fits.removeNode (fit : g.Fits types) (id : NodeId) : (g.removeNode id).1.Fits types := by
  cases at_ : g.index.find? id with
  | none => rwa [removeNode_of_absent at_]
  | some i =>
    rw [removeNode_eq_drop at_]
    exact fun n hn => fit.isolate id n (List.mem_of_mem_eraseIdx hn)

theorem Fits.connect (fit : g.Fits types) {origin target : NodeId} {originSlot targetSlot : Nat}
    {id : LinkId} (ok : g.connect origin originSlot target targetSlot = some (.ok (g', id))) :
    g'.Fits types := by
  obtain ⟨type, _, _, _, rfl⟩ := connect_ok ok
  have filed : Fits types ((g.disconnectInput target targetSlot).1.file
    ⟨id, origin, originSlot, target, targetSlot, type⟩ id) := fit.disconnectInput _ _
  exact (filed.modifyOutput _ _ _).modifyInput _ _ _

theorem fits_ofSnapshot (genuine : types.Genuine) {s : Snapshot}
    (ok : ofSnapshot s types = .ok g) : g.Fits types := by
  intro n hn
  rw [(ofSnapshot_ok ok).1] at hn
  obtain ⟨m, _, rfl⟩ := List.mem_map.1 hn
  exact Node.fits_toNode genuine m

theorem Fits.apply (fit : g.Fits types) (genuine : types.Genuine) (under : op.Under types g)
    (done : g.apply op = some g') : g'.Fits types := by
  apply apply_cases done fit
  case reported => exact fun g id f reports fit => fit.modifyNode fun _ _ old => old.report reports
  case edited =>
    rintro id e rfl
    exact fit.modifyNode fun n found old => old.edit (under n found)
  case added =>
    rintro n id rfl ok
    obtain ⟨t, found, fresh⟩ := under
    rw [(addNode_ok ok).1]
    intro m hm
    rcases List.mem_append.1 hm with hm | hm
    · exact fit m hm
    · rw [List.mem_singleton.1 hm, fresh]
      exact Node.fits_template genuine found _
  case removed => exact fit.removeNode
  case connected => exact fun o os t ts id _ ok => fit.connect ok
  case disconnected => exact fit.disconnectInput
  case cleared => exact fun _ n hn => absurd hn List.not_mem_nil
  case grouped => exact fun group => fit
  case configured =>
    rintro s types' g' rfl ok
    obtain rfl : types' = types := under
    exact fits_ofSnapshot genuine ok
  case loaded =>
    rintro s r g' rfl ok
    obtain rfl : r.types = types := under
    exact fits_ofSnapshot genuine ok

theorem Reachable.fits (genuine : types.Genuine)
    (h : Reachable (fun g op => op.Under types g) g) : g.Fits types := by
  apply h.invariant (P := Fits types)
  · exact fun n hn => absurd hn List.not_mem_nil
  · exact fun g op g' under done fit => fit.apply genuine under done

end Graph

end Flowgraph
