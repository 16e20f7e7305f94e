import Flowgraph.Proofs.Graph.Recoloring
import Flowgraph.Proofs.Intervention.Parity

namespace Flowgraph

open Json

namespace Graph

variable {g g' g'' : Graph} {i : Nat} {rs rs' : List Recoloring}

def leadsTo (g : Graph) (i : Nat) (id : NodeId) : Bool := g.index.find? id = some i

theorem getElem?_modifyNode (g : Graph) (i : Nat) (id : NodeId) (f : Node → Node) :
    (g.modifyNode id f).nodes[i]? =
      if g.leadsTo i id then g.nodes[i]?.map f else g.nodes[i]? := by
  unfold modifyNode
  cases found : g.index.find? id with
  | none => simp [leadsTo, found]
  | some j =>
    rw [List.getElem?_modify]
    by_cases here : j = i
    · simp [leadsTo, found, here]
    · simp [leadsTo, found, here]

/-- A graph and the same graph after recolourings of the node at a position. -/
structure RecoloredAt (i : Nat) (rs : List Recoloring) (g g' : Graph) : Prop where
  index : g'.index = g.index
  node : ∀ n, g.nodes[i]? = some n →
    ∃ n', g'.nodes[i]? = some n' ∧ n'.SameColors (n.recolorAll rs)

namespace RecoloredAt

theorem refl (i : Nat) (g : Graph) : g.RecoloredAt i [] g where
  index := rfl
  node n there := ⟨n, there, .refl n⟩

theorem trans (first : g.RecoloredAt i rs g') (second : g'.RecoloredAt i rs' g'') :
    g.RecoloredAt i (rs ++ rs') g'' where
  index := second.index.trans first.index
  node n there := by
    obtain ⟨n', there', same⟩ := first.node n there
    obtain ⟨n'', there'', same'⟩ := second.node n' there'
    refine ⟨n'', there'', ?_⟩
    rw [Node.recolorAll, List.foldl_append]
    exact same'.trans (same.recolorAll rs')

theorem leadsTo (r : g.RecoloredAt i rs g') (j : Nat) : g'.leadsTo j = g.leadsTo j := by
  unfold Graph.leadsTo
  rw [r.index]

theorem modifyNode {f : Node → Node} {r : Recoloring} (id : NodeId)
    (recolors : ∀ n, (f n).SameColors (n.recolor r)) :
    g.RecoloredAt i (if g.leadsTo i id then [r] else []) (g.modifyNode id f) := by
  refine ⟨Graph.modifyNode_index .., fun n there => ?_⟩
  rw [getElem?_modifyNode, there]
  split
  · exact ⟨f n, rfl, recolors n⟩
  · exact ⟨n, rfl, .refl n⟩

end RecoloredAt

end Graph

def Outcome.recolorings (leads : NodeId → Bool) : Outcome → List Recoloring
  | .paused id => if leads id then [.switch Palette.paused] else []
  | .errored id => if leads id then [.switch Palette.failed] else []
  | .updated evaluated results =>
    (evaluated.toList.filter leads).map (fun _ => .switch Palette.evaluating) ++
      (results.filter leads).map fun _ => .restore false
  | .ignored => []

namespace Scene

variable {s : Scene} {i : Nat}

theorem recoloredAt_applyResults (promptId : Option Value) (entries : Members) (ids : List NodeId) :
    ∃ results, (entries.foldl (applyResult promptId) (s, ids)).2 = ids ++ results ∧
      s.graph.RecoloredAt i ((results.filter (s.graph.leadsTo i)).map fun _ => .restore false)
        (entries.foldl (applyResult promptId) (s, ids)).1.graph := by
  induction entries generalizing s ids with
  | nil => exact ⟨[], (List.append_nil ids).symm, .refl i _⟩
  | cons entry rest ih =>
    obtain ⟨key, result⟩ := entry
    rw [List.foldl_cons]
    cases present : isPresent result with
    | false =>
      have same : applyResult promptId (s, ids) (key, result) = (s, ids) := by
        simp [applyResult, present]
      rw [same]
      exact ih ids
    | true =>
      cases known : s.known? (FrameData.resultNode? key result) with
      | none =>
        have same : applyResult promptId (s, ids) (key, result) = (s, ids) := by
          simp [applyResult, present, known]
        rw [same]
        exact ih ids
      | some id =>
        have recorded : applyResult promptId (s, ids) (key, result) =
            ({ s with graph := s.graph.modifyNode id (Node.recordResult promptId result) },
              ids ++ [id]) := by
          simp [applyResult, present, known]
        have first : s.graph.RecoloredAt i (if s.graph.leadsTo i id then [.restore false] else [])
            (s.graph.modifyNode id (Node.recordResult promptId result)) :=
          .modifyNode id fun n => ⟨rfl, rfl, rfl⟩
        rw [recorded]
        obtain ⟨results, listed, later⟩ := ih
          (s := { s with graph := s.graph.modifyNode id (Node.recordResult promptId result) })
          (ids ++ [id])
        refine ⟨id :: results, by simp [listed], ?_⟩
        have all := first.trans later
        rw [first.leadsTo i] at all
        rw [List.filter_cons]
        split
        · next here =>
          rw [if_pos here] at all
          exact all
        · next elsewhere =>
          rw [if_neg elsewhere] at all
          exact all

theorem recoloredAt_evaluate (s : Scene) (i : Nat) (now : String) (d : FrameData) :
    s.graph.RecoloredAt i (((s.known? d.evaluatedNode?).toList.filter (s.graph.leadsTo i)).map
        fun _ => .switch Palette.evaluating)
      (match d.evaluationAction, s.known? d.evaluatedNode? with
        | some action, some id =>
          { s with graph := s.graph.modifyNode id (Node.recordEvaluation now action) }
        | _, _ => s : Scene).graph := by
  cases evaluated : s.known? d.evaluatedNode? with
  | none => cases d.evaluationAction <;> exact .refl i _
  | some id =>
    cases given : d.evaluationAction with
    | none => simp [known?, FrameData.evaluatedNode?, given] at evaluated
    | some action =>
      have recolored : s.graph.RecoloredAt i
          (if s.graph.leadsTo i id then [.switch Palette.evaluating] else [])
          (s.graph.modifyNode id (Node.recordEvaluation now action)) :=
        .modifyNode id fun n => ⟨rfl, rfl, rfl⟩
      by_cases here : s.graph.leadsTo i id = true
      · simpa [here] using recolored
      · simpa [here] using recolored

theorem recoloredAt_applyData (s : Scene) (i : Nat) (now : String) (d : FrameData) :
    s.graph.RecoloredAt i ((s.applyData now d).2.recolorings (s.graph.leadsTo i))
      (s.applyData now d).1.graph := by
  unfold applyData
  split
  · exact .modifyNode _ fun n => ⟨rfl, rfl, rfl⟩
  · dsimp only
    split
    · exact .modifyNode _ fun n => ⟨rfl, rfl, rfl⟩
    · have first := recoloredAt_evaluate { s with paused := false } i now d
      obtain ⟨results, listed, later⟩ := recoloredAt_applyResults d.promptId (d.results.getD []) []
      have all := first.trans later
      rw [first.leadsTo] at all
      rw [List.nil_append] at listed
      subst listed
      exact all

/-- What the text of a frame does to the colours of the node at a position. -/
def recolorings (s : Scene) (i : Nat) (now text : String) : List Recoloring :=
  match s.applyText now text with
  | .ok (_, outcome) => outcome.recolorings (s.graph.leadsTo i)
  | .error _ => []

theorem recoloredAt_applyFrame (s : Scene) (i : Nat) (now : String) (f : Frame) :
    s.graph.RecoloredAt i ((s.applyFrame now f).2.recolorings (s.graph.leadsTo i))
      (s.applyFrame now f).1.graph := by
  unfold applyFrame
  cases given : f.data with
  | none => exact .refl i _
  | some d => exact s.recoloredAt_applyData i now d

end Scene

namespace Control

variable (k : Intervention) (checksum : String) (c : Control) (i : Nat)

def recoloring (id : NodeId) : Recoloring :=
  if c.sets.contains k checksum id then .restore true else .switch ⟨k.color, k.color⟩

variable {ids : List NodeId}

/-- What a toggle does to the colours of the node at a position. -/
def recolorings (c : Control) (i : Nat) (k : Intervention) (all : Bool) : List Recoloring :=
  if all then []
  else (c.selection.filter (c.scene.graph.leadsTo i)).map (c.recoloring k c.checksum)

end Control

namespace Workspace

variable {w : Workspace} {i : Nat}

/-- What an event does to the colours of the node at a position. -/
def recolorings (w : Workspace) (i : Nat) : Event → List Recoloring
  | .frame now text => w.control.scene.recolorings i now.timestamp text
  | .toggle _ k all => w.control.recolorings i k all
  | _ => []

end Workspace

end Flowgraph
