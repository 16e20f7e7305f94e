import Flowgraph.Proofs.Json.Members
import Flowgraph.Realtime.Update

namespace Flowgraph

open Json

namespace Node

/-- A change that keeps all of a node but its properties and colours, and gives no two properties
one name. -/
def Reports (f : Node → Node) : Prop :=
  ∀ n, ∃ properties color bodyColor remembered,
    f n = { n with
      properties := properties
      color := color
      bodyColor := bodyColor
      remembered := remembered } ∧
    (Members.Distinct n.properties → Members.Distinct properties)

def KeepsSlots (f : Node → Node) : Prop :=
  ∀ n, (f n).id = n.id ∧ (f n).inputs = n.inputs ∧ (f n).outputs = n.outputs

theorem Reports.keepsSlots {f : Node → Node} (h : Reports f) : KeepsSlots f := by
  intro n
  obtain ⟨properties, color, bodyColor, remembered, eq, _⟩ := h n
  rw [eq]
  exact ⟨rfl, rfl, rfl⟩

/-- The properties that hold what a run reported. -/
def reportKeys : List String := ["result", "node_errors", "evaluation_action"]

/-- A node and the same node with other reports and other colours. Properties may move. -/
structure Reported (n n' : Node) : Prop where
  rest : { n' with
    properties := n.properties
    color := n.color
    bodyColor := n.bodyColor
    remembered := n.remembered } = n
  members : ∀ m, m.1 ∉ reportKeys → (m ∈ n'.properties ↔ m ∈ n.properties)
  distinct : Members.Distinct n.properties → Members.Distinct n'.properties

variable {n n' n'' : Node} {f : Node → Node}

theorem Reported.refl (n : Node) : n.Reported n := ⟨rfl, fun _ _ => .rfl, fun distinct => distinct⟩

theorem Reported.trans (first : n.Reported n') (second : n'.Reported n'') : n.Reported n'' where
  rest := by
    have rest := second.rest
    rw [← rest] at first
    exact first.rest
  members m other := (second.members m other).trans (first.members m other)
  distinct distinct := second.distinct (first.distinct distinct)

theorem reports_of_reported (reported : ∀ n : Node, n.Reported (f n)) : Reports f := by
  intro n
  refine ⟨(f n).properties, (f n).color, (f n).bodyColor, (f n).remembered, ?_,
    (reported n).distinct⟩
  have rest := congrArg (fun m : Node => { m with
    properties := (f n).properties
    color := (f n).color
    bodyColor := (f n).bodyColor
    remembered := (f n).remembered }) (reported n).rest
  exact rest

theorem reported_switchColors (c : Colors) (n : Node) : n.Reported (n.switchColors c) :=
  ⟨rfl, fun _ _ => .rfl, fun distinct => distinct⟩

theorem reported_restoreColors (all : Bool) (n : Node) : n.Reported (n.restoreColors all) :=
  ⟨rfl, fun _ _ => .rfl, fun distinct => distinct⟩

theorem reported_put {k : String} (hk : k ∈ reportKeys) (v : Value) (n : Node) :
    n.Reported { n with properties := Members.put k v n.properties } where
  rest := rfl
  members m other := by
    apply Members.mem_put_iff
    rintro rfl
    exact other hk
  distinct distinct := distinct.put k v

theorem reported_erase {k : String} (hk : k ∈ reportKeys) (n : Node) :
    n.Reported { n with properties := Members.erase k n.properties } where
  rest := rfl
  members m other := by
    apply Members.mem_erase_iff
    rintro rfl
    exact other hk
  distinct distinct := distinct.erase k

theorem reported_markPaused (n : Node) : n.Reported n.markPaused := reported_switchColors _ n

theorem reported_recordErrors (errors : Value) (n : Node) :
    n.Reported (n.recordErrors errors) := by
  have noted := reported_put (k := "node_errors") (by decide) errors n
  exact noted.trans (reported_switchColors _ _)

theorem reported_recordEvaluation (now : String) (action : Value) (n : Node) :
    n.Reported (n.recordEvaluation now action) := by
  have acted := reported_put (k := "evaluation_action") (by decide) action n
  have stamped := reported_put (k := "result") (by decide)
    (stampedResult now (Members.put "evaluation_action" action n.properties))
    { n with properties := Members.put "evaluation_action" action n.properties }
  exact (acted.trans stamped).trans (reported_switchColors _ _)

theorem reported_recordResult (promptId : Option Value) (result : Value) (n : Node) :
    n.Reported (n.recordResult promptId result) := by
  have stored (v : Value) := reported_put (k := "result") (by decide) v n
  exact ((stored _).trans (reported_erase (k := "node_errors") (by decide) _)).trans
    (reported_restoreColors false _)

end Node

namespace FrameData

/-- The nodes that a frame names: as the one it pauses at, as the one that is evaluated, and in the
entries of its results. -/
def named (d : FrameData) : List NodeId :=
  d.pausedNode?.toList ++ d.evaluatedNode?.toList ++
    (d.results.getD []).filterMap fun entry =>
      if isPresent entry.2 then resultNode? entry.1 entry.2 else none

variable {d : FrameData} {id : NodeId}

theorem mem_named_of_paused (paused : d.pausedNode? = some id) : id ∈ d.named := by
  simp [named, paused]

theorem mem_named_of_evaluated (evaluated : d.evaluatedNode? = some id) : id ∈ d.named := by
  simp [named, evaluated]

theorem mem_named_of_result {entry : String × Value} (listed : entry ∈ d.results.getD [])
    (present : isPresent entry.2 = true) (found : resultNode? entry.1 entry.2 = some id) :
    id ∈ d.named := by
  apply List.mem_append_right
  exact List.mem_filterMap.2 ⟨entry, listed, by rw [if_pos present, found]⟩

end FrameData

def Frame.named (f : Frame) : List NodeId := f.data.elim [] FrameData.named

/-- The nodes that the text of a frame names. Malformed text names none. -/
def Frame.namedIn (text : String) : List NodeId := (ofText? text).elim [] named

namespace Scene

variable {P : Graph → Prop} {ids : List NodeId}

theorem known?_eq_some {s : Scene} {id? : Option NodeId} {id : NodeId}
    (known : s.known? id? = some id) : id? = some id :=
  (Option.filter_eq_some_iff.1 known).1

theorem applyResult_invariant
    (keep : ∀ g id f, id ∈ ids → (∀ n : Node, n.Reported (f n)) → P g → P (g.modifyNode id f))
    (promptId : Option Value) (s : Scene × List NodeId) (entry : String × Value)
    (named : ∀ id, isPresent entry.2 = true →
      FrameData.resultNode? entry.1 entry.2 = some id → id ∈ ids) (h : P s.1.graph) :
    P (applyResult promptId s entry).1.graph := by
  unfold applyResult
  split
  split
  · exact h
  · next key result present =>
    split
    · exact h
    · next id known =>
      have hid := named id (by simpa using present) (known?_eq_some known)
      exact keep _ _ _ hid (Node.reported_recordResult promptId result) h

theorem applyResults_invariant
    (keep : ∀ g id f, id ∈ ids → (∀ n : Node, n.Reported (f n)) → P g → P (g.modifyNode id f))
    (promptId : Option Value) (entries : Members) (s : Scene × List NodeId)
    (named : ∀ entry ∈ entries, ∀ id, isPresent entry.2 = true →
      FrameData.resultNode? entry.1 entry.2 = some id → id ∈ ids) (h : P s.1.graph) :
    P (entries.foldl (applyResult promptId) s).1.graph := by
  induction entries generalizing s with
  | nil => exact h
  | cons entry rest ih =>
    apply ih
    · intro e he
      exact named e (List.mem_cons_of_mem _ he)
    · exact applyResult_invariant keep promptId s entry (named entry List.mem_cons_self) h

theorem applyData_invariant (s : Scene) (now : String) (d : FrameData)
    (keep : ∀ g id f, id ∈ d.named → (∀ n : Node, n.Reported (f n)) → P g → P (g.modifyNode id f))
    (h : P s.graph) : P (s.applyData now d).1.graph := by
  unfold applyData
  split
  · next id known =>
    have hid := FrameData.mem_named_of_paused (known?_eq_some known)
    exact keep _ _ _ hid Node.reported_markPaused h
  · dsimp only
    split
    · next errors id _ known =>
      have hid := FrameData.mem_named_of_evaluated (known?_eq_some known)
      exact keep _ _ _ hid (Node.reported_recordErrors errors) h
    · apply applyResults_invariant keep
      · intro entry listed id present found
        exact FrameData.mem_named_of_result listed present found
      · dsimp only
        split
        · next action id _ known =>
          have hid := FrameData.mem_named_of_evaluated (known?_eq_some known)
          exact keep _ _ _ hid (Node.reported_recordEvaluation now action) h
        · exact h

/-- What recolouring the nodes that a frame names and writing their reports keeps is kept by the
frame. -/
theorem applyText_invariant {s s' : Scene} {now text : String} {outcome : Outcome}
    (keep : ∀ g id f, id ∈ Frame.namedIn text → (∀ n : Node, n.Reported (f n)) →
      P g → P (g.modifyNode id f))
    (ok : s.applyText now text = .ok (s', outcome)) (h : P s.graph) : P s'.graph := by
  unfold applyText at ok
  split at ok
  · next f parsed =>
    simp only [Except.ok.injEq] at ok
    have result : s' = (s.applyFrame now f).1 := by rw [ok]
    rw [Frame.namedIn, parsed] at keep
    rw [result]
    unfold applyFrame
    cases data : f.data with
    | none => exact h
    | some d =>
      rw [Option.elim_some, Frame.named, data] at keep
      exact applyData_invariant s now d keep h
  · cases ok

end Scene

end Flowgraph
