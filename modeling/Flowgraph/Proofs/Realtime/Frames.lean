import Flowgraph.Proofs.Graph.Fit
import Flowgraph.Proofs.Realtime.Reported

namespace Flowgraph

open Json

namespace Scene

def receive (s : Scene) (now text : String) : Scene :=
  match s.applyText now text with
  | .ok (s', _) => s'
  | .error _ => s

def receiveAll (s : Scene) (frames : List (String × String)) : Scene :=
  frames.foldl (fun s f => s.receive f.1 f.2) s

variable {s : Scene}

theorem receive_of_malformed {text : String} (malformed : Frame.ofText? text = none)
    (now : String) : s.receive now text = s := by
  rw [receive, applyText, malformed]

theorem receive_reportedAt (s : Scene) (now text : String) :
    s.graph.ReportedAt (Frame.namedIn text) (s.receive now text).graph := by
  have start : s.graph.ReportedAt (Frame.namedIn text) s.graph := .refl _ _
  unfold receive
  split
  · next s' outcome ok =>
    apply applyText_invariant _ ok start
    intro g id f hid reported before
    exact before.trans (.modifyNode hid reported)
  · exact start

theorem receiveAll_reportedAt (s : Scene) (frames : List (String × String)) :
    s.graph.ReportedAt (frames.flatMap fun f => Frame.namedIn f.2) (s.receiveAll frames).graph := by
  induction frames generalizing s with
  | nil => exact .refl _ _
  | cons frame rest ih =>
    have first := s.receive_reportedAt frame.1 frame.2
    have later := ih (s.receive frame.1 frame.2)
    rw [List.flatMap_cons]
    exact (first.mono (List.subset_append_left _ _)).trans
      (later.mono (List.subset_append_right _ _))

theorem receiveAll_filter (s : Scene) (frames : List (String × String)) :
    s.receiveAll (frames.filter fun f => (Frame.ofText? f.2).isSome) = s.receiveAll frames := by
  induction frames generalizing s with
  | nil => rfl
  | cons frame rest ih =>
    cases parsed : Frame.ofText? frame.2 with
    | none =>
      have skip : s.receiveAll (frame :: rest) = s.receiveAll rest :=
        congrArg (receiveAll · rest) (receive_of_malformed parsed frame.1)
      rw [List.filter_cons_of_neg (by simp [parsed]), skip]
      exact ih s
    | some f =>
      rw [List.filter_cons_of_pos (by simp [parsed])]
      exact ih (s.receive frame.1 frame.2)

/-- In a run of frames a graph stays as it is but for reports and colours of the nodes that are
found under the ids that some frame names, and its checksums and its compiled nodes stay. Malformed
frames leave the whole scene as it is, so the others alone lead to the same scene. -/
theorem frames_reach_named_nodes (s : Scene) (frames : List (String × String)) :
    let s' := s.receiveAll frames
    let named := frames.flatMap fun f => Frame.namedIn f.2
    s.graph.ReportedAt named s'.graph ∧
      (s.graph.Anchored → ∀ (i : Nat) n, s.graph.nodes[i]? = some n → n.id ∉ named →
        s'.graph.nodes[i]? = some n) ∧
      s'.graph.serialize.checksum = s.graph.serialize.checksum ∧
      s'.graph.compile.prompt = s.graph.compile.prompt ∧
      s'.graph.compile.checksum = s.graph.compile.checksum ∧
      (∀ now text, Frame.ofText? text = none → s'.receive now text = s') ∧
      s.receiveAll (frames.filter fun f => (Frame.ofText? f.2).isSome) = s' := by
  intro s' named
  have reported : s.graph.ReportedAt named s'.graph := s.receiveAll_reportedAt frames
  refine ⟨reported, ?_, reported.checksum, reported.prompt, reported.planChecksum, ?_,
    s.receiveAll_filter frames⟩
  · intro a i n at_ unnamed
    rw [← at_]
    apply reported.unnamed
    rintro id hid found
    have same := a.placed id i found
    rw [at_, Option.map_some, Option.some.injEq] at same
    rw [same] at unnamed
    exact unnamed hid
  · intro now text malformed
    exact receive_of_malformed malformed now

/-- A malformed frame, and one that pauses the run at a node. -/
theorem other_node_unreported :
    let step : Node := { type := "Step" }
    let pause : Value := .object [("data", .object [("breakpoint", .string "2")])]
    ∃ g s', Graph.empty.run [.addNode step, .addNode step] = some g ∧
      ({ graph := g } : Scene).receiveAll [("noon", "pause"), ("noon", pause.compact)] = s' ∧
      s'.graph.nodes[0]? = g.nodes[0]? ∧
      s'.graph.nodes[1]?.map (·.color) = some (some "#2a363b") ∧
      s'.graph.compile.checksum = g.compile.checksum := by
  intro step pause
  let g := (Graph.empty.run [.addNode step, .addNode step]).get (by decide)
  let frames := [("noon", "pause"), ("noon", pause.compact)]
  let s' := ({ graph := g } : Scene).receiveAll frames
  have ran : Graph.empty.run [.addNode step, .addNode step] = some g := (Option.some_get _).symm
  have named : (frames.flatMap fun f => Frame.namedIn f.2) = [2] := by decide +kernel
  have first : g.nodes[0]? = some { step with id := 1 } := rfl
  have paused : s'.graph.nodes[1]?.map (·.color) = some (some "#2a363b") := by decide +kernel
  have reachable : Graph.Reachable (fun _ _ => True) g := .of_run .empty (fun _ _ _ => trivial) ran
  have sound := (Graph.WellFormed.of_reachable reachable).toSound
  obtain ⟨_, unnamed, _, _, checksum, _⟩ := frames_reach_named_nodes { graph := g } frames
  have absent : (1 : NodeId) ∉ frames.flatMap fun f => Frame.namedIn f.2 := by
    rw [named]
    decide
  have same := unnamed sound.anchored 0 _ first absent
  exact ⟨g, s', ran, rfl, same, paused, checksum⟩

end Scene

end Flowgraph
