import Flowgraph.Proofs.Realtime.Frames

namespace Flowgraph

open Json

namespace Node

/-- A node that was given one colour. It remembers the colours that it wore, unless it remembers
some already. -/
def tinted (n : Node) (color : String) : Node :=
  { n with
    color := some color
    bodyColor := some color
    remembered := some (n.remembered.getD ⟨n.color.getD "#333", n.bodyColor.getD "#353535"⟩) }

theorem markPaused_eq (n : Node) : n.markPaused = n.tinted "#2a363b" := rfl

theorem recordErrors_eq (errors : Value) (n : Node) : n.recordErrors errors =
    { n with properties := Members.put "node_errors" errors n.properties }.tinted "#FF0000" := rfl

end Node

namespace FrameData

/-- The breakpoint is present and denotes a node of the graph. -/
def Breaks (d : FrameData) (g : Graph) (n : NodeId) : Prop :=
  ∃ v, d.breakpoint = some v ∧ isPresent v = true ∧ nodeIdOf? v = some n ∧ g.hasNode n = true

/-- The evaluation action names a node of the graph. -/
def Evaluates (d : FrameData) (g : Graph) (n : NodeId) : Prop :=
  ∃ action v, d.evaluationAction = some action ∧ action.get? "node_id" = some v ∧
    nodeIdOf? v = some n ∧ g.hasNode n = true

def Fails (d : FrameData) : Prop := ∃ v, d.nodeErrors = some v ∧ isPresent v = true

def resolve? (g : Graph) (entry : String × Value) : Option NodeId :=
  if isPresent entry.2 then (resultNode? entry.1 entry.2).filter g.hasNode else none

/-- The nodes that the entries of the results resolve to, in the order of the entries. -/
def resultNodes (d : FrameData) (g : Graph) : List NodeId :=
  (d.results.getD []).filterMap (resolve? g)

variable {d : FrameData} {g : Graph} {n m : NodeId}

theorem Breaks.unique (h : d.Breaks g n) (h' : d.Breaks g m) : n = m := by
  obtain ⟨v, given, _, denotes, _⟩ := h
  obtain ⟨v', given', _, denotes', _⟩ := h'
  cases given.symm.trans given'
  exact Option.some.inj (denotes.symm.trans denotes')

theorem Evaluates.unique (h : d.Evaluates g n) (h' : d.Evaluates g m) : n = m := by
  obtain ⟨action, v, given, named, denotes, _⟩ := h
  obtain ⟨action', v', given', named', denotes', _⟩ := h'
  cases given.symm.trans given'
  cases named.symm.trans named'
  exact Option.some.inj (denotes.symm.trans denotes')

theorem errors?_eq_some_iff {errors : Value} :
    d.errors? = some errors ↔ d.nodeErrors = some errors ∧ isPresent errors = true :=
  Option.filter_eq_some_iff

end FrameData

def Outcome.spotlit? : Outcome → Option NodeId
  | .paused n => some n
  | .errored n => some n
  | .updated .. => none
  | .ignored => none

/-- Whether the run is held after a frame, if the frame says. -/
def Outcome.holds? : Outcome → Option Bool
  | .paused _ => some true
  | .errored _ => some false
  | .updated .. => some false
  | .ignored => none

namespace Scene

variable {s s' : Scene} {d : FrameData} {n : NodeId}

theorem known?_pausedNode?_iff : s.known? d.pausedNode? = some n ↔ d.Breaks s.graph n := by
  simp only [known?, FrameData.pausedNode?, Option.filter_eq_some_iff, Option.bind_eq_some_iff,
    FrameData.Breaks]
  constructor
  · rintro ⟨⟨v, ⟨given, present⟩, denotes⟩, known⟩
    exact ⟨v, given, present, denotes, known⟩
  · rintro ⟨v, given, present, denotes, known⟩
    exact ⟨⟨v, ⟨given, present⟩, denotes⟩, known⟩

theorem known?_evaluatedNode?_iff : s.known? d.evaluatedNode? = some n ↔ d.Evaluates s.graph n := by
  simp only [known?, FrameData.evaluatedNode?, Option.filter_eq_some_iff, Option.bind_eq_some_iff,
    FrameData.Evaluates]
  constructor
  · rintro ⟨⟨v, ⟨action, given, named⟩, denotes⟩, known⟩
    exact ⟨action, v, given, named, denotes, known⟩
  · rintro ⟨action, v, given, named, denotes, known⟩
    exact ⟨⟨v, ⟨action, given, named⟩, denotes⟩, known⟩

theorem applyResult_eq (promptId : Option Value) (s : Scene) (ids : List NodeId)
    (entry : String × Value) : applyResult promptId (s, ids) entry =
      match FrameData.resolve? s.graph entry with
      | none => (s, ids)
      | some id =>
        ({ s with graph := s.graph.modifyNode id (Node.recordResult promptId entry.2) },
          ids ++ [id]) := by
  obtain ⟨key, result⟩ := entry
  simp only [applyResult, FrameData.resolve?, known?]
  cases isPresent result with
  | false => rfl
  | true => rfl

theorem resolve?_of_index {g g' : Graph} (index : g'.index = g.index) :
    FrameData.resolve? g' = FrameData.resolve? g := by
  have same : g'.hasNode = g.hasNode := by
    funext id
    rw [Graph.hasNode, Graph.hasNode, index]
  funext entry
  rw [FrameData.resolve?, FrameData.resolve?, same]

theorem applyResults_eq (promptId : Option Value) (entries : Members) (s : Scene)
    (ids : List NodeId) :
    ∃ g, g.index = s.graph.index ∧ entries.foldl (applyResult promptId) (s, ids) =
      ({ s with graph := g }, ids ++ entries.filterMap (FrameData.resolve? s.graph)) := by
  induction entries generalizing s ids with
  | nil => exact ⟨s.graph, rfl, by rw [List.filterMap_nil, List.append_nil]; rfl⟩
  | cons entry rest ih =>
    rw [List.foldl_cons, applyResult_eq, List.filterMap_cons]
    cases FrameData.resolve? s.graph entry with
    | none => exact ih s ids
    | some id =>
      obtain ⟨g, index, same⟩ := ih
        { s with graph := s.graph.modifyNode id (Node.recordResult promptId entry.2) } (ids ++ [id])
      rw [Graph.modifyNode_index] at index
      refine ⟨g, index, ?_⟩
      dsimp only at same ⊢
      rw [same, resolve?_of_index (Graph.modifyNode_index ..), List.append_assoc]
      rfl

/-- The graph after an evaluation is noted at the evaluated node, if there is one. -/
def evaluate (g : Graph) (now : String) (d : FrameData) (evaluated : Option NodeId) : Graph :=
  match d.evaluationAction, evaluated with
  | some action, some id => g.modifyNode id (Node.recordEvaluation now action)
  | _, _ => g

theorem evaluate_index (g : Graph) (now : String) (d : FrameData) (evaluated : Option NodeId) :
    (evaluate g now d evaluated).index = g.index := by
  unfold evaluate
  split
  · exact Graph.modifyNode_index ..
  · rfl

/-- What the data of a frame does: at most one of a breakpoint, errors, and everything else. -/
inductive Acts (s : Scene) (now : String) (d : FrameData) : Scene → Outcome → Prop where
  | paused {n : NodeId} : d.Breaks s.graph n →
    Acts s now d { s.spotlight n Node.markPaused with paused := true } (.paused n)
  | errored {n : NodeId} {errors : Value} : (∀ m, ¬d.Breaks s.graph m) →
    d.nodeErrors = some errors → isPresent errors = true → d.Evaluates s.graph n →
    Acts s now d { s.spotlight n (Node.recordErrors errors) with paused := false } (.errored n)
  | updated {evaluated : Option NodeId} {g : Graph} : (∀ m, ¬d.Breaks s.graph m) →
    ¬(d.Fails ∧ ∃ n, d.Evaluates s.graph n) →
    (∀ n, evaluated = some n ↔ d.Evaluates s.graph n) → g.index = s.graph.index →
    (d.results.getD []).foldl (applyResult d.promptId)
        ({ s with graph := evaluate s.graph now d evaluated, paused := false }, []) =
      ({ s with graph := g, paused := false }, d.resultNodes s.graph) →
    Acts s now d { s with graph := g, paused := false }
      (.updated evaluated (d.resultNodes s.graph))

theorem applyData_of_clean (now : String) (runs : s.known? d.pausedNode? = none)
    (clean : ∀ errors n, d.errors? = some errors → s.known? d.evaluatedNode? ≠ some n) :
    s.applyData now d =
      let evaluated := s.known? d.evaluatedNode?
      let r := (d.results.getD []).foldl (applyResult d.promptId)
        ({ s with graph := evaluate s.graph now d evaluated, paused := false }, [])
      (r.1, .updated evaluated r.2) := by
  have same : ({ s with paused := false } : Scene).known? = s.known? := rfl
  simp only [applyData, runs, same, evaluate]
  cases given : d.errors? with
  | none => cases d.evaluationAction <;> cases s.known? d.evaluatedNode? <;> rfl
  | some errors =>
    cases known : s.known? d.evaluatedNode? with
    | none => cases d.evaluationAction <;> rfl
    | some n => exact absurd known (clean errors n given)

theorem acts_applyData (s : Scene) (now : String) (d : FrameData) :
    s.Acts now d (s.applyData now d).1 (s.applyData now d).2 := by
  cases paused : s.known? d.pausedNode? with
  | some n =>
    simp only [applyData, paused]
    exact .paused (known?_pausedNode?_iff.1 paused)
  | none =>
    have runs : ∀ m, ¬d.Breaks s.graph m := by
      intro m breaks
      cases paused.symm.trans (known?_pausedNode?_iff.2 breaks)
    by_cases failed : d.Fails ∧ ∃ n, d.Evaluates s.graph n
    · obtain ⟨⟨errors, given, present⟩, n, evaluates⟩ := failed
      have errors? := FrameData.errors?_eq_some_iff.2 ⟨given, present⟩
      have known : ({ s with paused := false } : Scene).known? d.evaluatedNode? = some n :=
        known?_evaluatedNode?_iff.2 evaluates
      simp only [applyData, paused, errors?, known]
      exact .errored runs given present evaluates
    · have clean : ∀ errors n, d.errors? = some errors → s.known? d.evaluatedNode? ≠ some n := by
        intro errors n given known
        obtain ⟨given, present⟩ := FrameData.errors?_eq_some_iff.1 given
        exact failed ⟨⟨errors, given, present⟩, n, known?_evaluatedNode?_iff.1 known⟩
      obtain ⟨g, index, recorded⟩ := applyResults_eq d.promptId (d.results.getD [])
        { s with
          graph := evaluate s.graph now d (s.known? d.evaluatedNode?), paused := false } []
      rw [evaluate_index] at index
      rw [List.nil_append, resolve?_of_index (evaluate_index ..)] at recorded
      rw [applyData_of_clean now paused clean]
      dsimp only
      rw [recorded]
      exact .updated runs failed (fun n => known?_evaluatedNode?_iff) index recorded

/-- A node is changed and brought to the user's attention, and nothing else is. -/
structure Spotlit (s : Scene) (n : NodeId) (f : Node → Node) (held : Bool) (s' : Scene) : Prop where
  graph : ∃ i, s.graph.index.find? n = some i ∧
    s'.graph = { s.graph with nodes := s.graph.nodes.modify i f }
  canvas : s'.canvas = { s.canvas with
    selected := s.canvas.selected.insert n ()
    centered := some n
    redraws := s.canvas.redraws + 1 }
  paused : s'.paused = held

theorem spotlit_spotlight (known : s.graph.hasNode n = true) (f : Node → Node) (held : Bool) :
    Spotlit s n f held { s.spotlight n f with paused := held }.redraw where
  graph := by
    obtain ⟨i, found⟩ := Option.isSome_iff_exists.1 known
    refine ⟨i, found, ?_⟩
    simp only [redraw, spotlight, Graph.modifyNode, found]
  canvas := rfl
  paused := rfl

/-- What a frame with data does, where the graph has the same nodes as another. -/
structure Prioritizes (g : Graph) (d : FrameData) (s s' : Scene) (outcome : Outcome) : Prop where
  held : s'.paused = true ↔ ∃ n, d.Breaks g n
  paused : ∀ n, outcome = .paused n ↔ d.Breaks g n
  errored : ∀ n, outcome = .errored n ↔ (∀ m, ¬d.Breaks g m) ∧ d.Fails ∧ d.Evaluates g n
  updated : ∀ evaluated results, outcome = .updated evaluated results ↔
    (∀ m, ¬d.Breaks g m) ∧ ¬(d.Fails ∧ ∃ n, d.Evaluates g n) ∧
      (∀ n, evaluated = some n ↔ d.Evaluates g n) ∧ results = d.resultNodes g
  afterBreak : ∀ n, outcome = .paused n → Spotlit s n (·.tinted "#2a363b") true s'
  afterErrors : ∀ n, outcome = .errored n → ∃ (errors : Value) (record : Members → Members),
    d.nodeErrors = some errors ∧
    (∀ k ms, Members.get? k (record ms) =
      if "node_errors" = k then some errors else Members.get? k ms) ∧
    Spotlit s n (fun n => { n with properties := record n.properties }.tinted "#FF0000") false s'
  afterUpdate : ∀ evaluated results, outcome = .updated evaluated results →
    s'.canvas = s.canvas.redraw

/-- Which nodes there are is all that counts. -/
theorem Prioritizes.congr {g g' : Graph} {outcome : Outcome} (same : g.hasNode = g'.hasNode)
    (h : Prioritizes g d s s' outcome) : Prioritizes g' d s s' outcome := by
  have breaks : d.Breaks g = d.Breaks g' := by
    unfold FrameData.Breaks
    rw [same]
  have evaluates : d.Evaluates g = d.Evaluates g' := by
    unfold FrameData.Evaluates
    rw [same]
  have results : d.resultNodes g = d.resultNodes g' := by
    unfold FrameData.resultNodes FrameData.resolve?
    rw [same]
  obtain ⟨held, paused, errored, updated, afterBreak, afterErrors, afterUpdate⟩ := h
  rw [breaks] at held paused errored updated
  rw [evaluates] at errored updated
  rw [results] at updated
  exact ⟨held, paused, errored, updated, afterBreak, afterErrors, afterUpdate⟩

theorem Acts.prioritizes {now : String} {outcome : Outcome} (acts : s.Acts now d s' outcome) :
    Prioritizes s.graph d s s'.redraw outcome := by
  cases acts with
  | @paused n breaks =>
    have held : ∃ m, d.Breaks s.graph m := ⟨n, breaks⟩
    constructor
    case held => exact iff_of_true rfl held
    case paused =>
      intro m
      constructor
      · rintro ⟨⟩
        exact breaks
      · intro other
        rw [breaks.unique other]
    case errored => exact fun m => iff_of_false nofun fun h => h.1 n breaks
    case updated => exact fun _ _ => iff_of_false nofun fun h => h.1 n breaks
    case afterBreak =>
      rintro m ⟨⟩
      obtain ⟨_, _, _, _, known⟩ := breaks
      simp only [← Node.markPaused_eq]
      exact spotlit_spotlight known Node.markPaused true
    case afterErrors => exact nofun
    case afterUpdate => exact nofun
  | @errored n errors runs given present evaluates =>
    have fails : d.Fails := ⟨errors, given, present⟩
    constructor
    case held => exact iff_of_false nofun fun ⟨m, breaks⟩ => runs m breaks
    case paused => exact fun m => iff_of_false nofun (runs m)
    case errored =>
      intro m
      constructor
      · rintro ⟨⟩
        exact ⟨runs, fails, evaluates⟩
      · rintro ⟨_, _, other⟩
        rw [evaluates.unique other]
    case updated => exact fun _ _ => iff_of_false nofun fun h => h.2.1 ⟨fails, n, evaluates⟩
    case afterBreak => exact nofun
    case afterErrors =>
      rintro m ⟨⟩
      obtain ⟨_, _, _, _, _, known⟩ := evaluates
      refine ⟨errors, Members.put "node_errors" errors, given, ?_, ?_⟩
      · exact fun k ms => Members.get?_put k "node_errors" errors ms
      · simp only [← Node.recordErrors_eq]
        exact spotlit_spotlight known (Node.recordErrors errors) false
    case afterUpdate => exact nofun
  | @updated evaluated? g runs clean evaluated index recorded =>
    constructor
    case held => exact iff_of_false nofun fun ⟨m, breaks⟩ => runs m breaks
    case paused => exact fun m => iff_of_false nofun (runs m)
    case errored => exact fun m => iff_of_false nofun fun h => clean ⟨h.2.1, m, h.2.2⟩
    case updated =>
      intro evaluated' results
      constructor
      · rintro ⟨⟩
        exact ⟨runs, clean, evaluated, rfl⟩
      · rintro ⟨_, _, same, rfl⟩
        have eq : evaluated? = evaluated' :=
          Option.ext fun n => (evaluated n).trans (same n).symm
        rw [eq]
    case afterBreak => exact nofun
    case afterErrors => exact nofun
    case afterUpdate => exact fun _ _ _ => rfl

section Runs

def outcomes (s : Scene) : List (String × String) → List Outcome
  | [] => []
  | (now, text) :: rest =>
    match s.applyText now text with
    | .ok (s', outcome) => outcome :: s'.outcomes rest
    | .error _ => s.outcomes rest

/-- What frames did to the flag and to the canvas, by their outcomes. -/
structure Shows (s : Scene) (os : List Outcome) (s' : Scene) : Prop where
  index : s'.graph.index = s.graph.index
  paused : s'.paused = (os.filterMap Outcome.holds?).getLast?.getD s.paused
  redraws : s'.canvas.redraws = s.canvas.redraws + os.length
  centered : s'.canvas.centered = (os.filterMap Outcome.spotlit?).getLast?.or s.canvas.centered
  selected : ∀ id, s'.canvas.selected.contains id = true ↔
    s.canvas.selected.contains id = true ∨ id ∈ os.filterMap Outcome.spotlit?
  notices : s'.canvas.notices = s.canvas.notices

theorem Shows.refl (s : Scene) : s.Shows [] s where
  index := rfl
  paused := rfl
  redraws := rfl
  centered := rfl
  selected _ := ⟨.inl, fun h => h.resolve_right List.not_mem_nil⟩
  notices := rfl

theorem Shows.trans {s'' : Scene} {os os' : List Outcome} (first : s.Shows os s')
    (second : s'.Shows os' s'') : s.Shows (os ++ os') s'' where
  index := second.index.trans first.index
  paused := by
    rw [second.paused, first.paused, List.filterMap_append, List.getLast?_append, Option.getD_or]
  redraws := by rw [second.redraws, first.redraws, List.length_append, Nat.add_assoc]
  centered := by
    rw [second.centered, first.centered, List.filterMap_append, List.getLast?_append,
      Option.or_assoc]
  selected id := by
    rw [second.selected, first.selected, List.filterMap_append, List.mem_append, or_assoc]
  notices := second.notices.trans first.notices

theorem shows_spotlight (s : Scene) (n : NodeId) (f : Node → Node) {outcome : Outcome}
    {held : Bool} (spotlit : outcome.spotlit? = some n) (holds : outcome.holds? = some held) :
    s.Shows [outcome] { s.spotlight n f with paused := held }.redraw where
  index := Graph.modifyNode_index ..
  paused := by rw [List.filterMap_cons, holds]; rfl
  redraws := rfl
  centered := by rw [List.filterMap_cons, spotlit]; rfl
  selected id := by
    have added := SortedMap.contains_insert s.canvas.selected n () id
    rw [List.filterMap_cons, spotlit, List.filterMap_nil, List.mem_singleton]
    exact (Bool.eq_iff_iff.1 added).trans (by simp [or_comm])
  notices := rfl

theorem shows_applyFrame (s : Scene) (now : String) (f : Frame) :
    s.Shows [(s.applyFrame now f).2] (s.applyFrame now f).1 := by
  unfold applyFrame
  cases f.data with
  | none => exact ⟨rfl, rfl, rfl, rfl, fun _ => ⟨.inl, fun h => h.resolve_right nofun⟩, rfl⟩
  | some d =>
    have acts := s.acts_applyData now d
    dsimp only
    generalize s.applyData now d = r at acts
    obtain ⟨s', outcome⟩ := r
    cases acts with
    | paused => exact shows_spotlight s _ _ rfl rfl
    | errored => exact shows_spotlight s _ _ rfl rfl
    | updated _ _ _ index =>
      exact ⟨index, rfl, rfl, rfl, fun _ => ⟨.inl, fun h => h.resolve_right nofun⟩, rfl⟩

theorem shows_receiveAll (s : Scene) (frames : List (String × String)) :
    s.Shows (s.outcomes frames) (s.receiveAll frames) := by
  induction frames generalizing s with
  | nil => exact .refl s
  | cons frame rest ih =>
    obtain ⟨now, text⟩ := frame
    have step : s.receiveAll ((now, text) :: rest) = (s.receive now text).receiveAll rest := rfl
    rw [step, outcomes, receive, applyText]
    cases Frame.ofText? text with
    | none => exact ih s
    | some f => exact (s.shows_applyFrame now f).trans (ih (s.applyFrame now f).1)

theorem length_outcomes (s : Scene) (frames : List (String × String)) :
    (s.outcomes frames).length = (frames.filter fun f => (Frame.ofText? f.2).isSome).length := by
  induction frames generalizing s with
  | nil => rfl
  | cons frame rest ih =>
    obtain ⟨now, text⟩ := frame
    rw [outcomes, applyText]
    cases parsed : Frame.ofText? text with
    | none =>
      rw [List.filter_cons_of_neg (by simp [parsed])]
      exact ih s
    | some f =>
      rw [List.filter_cons_of_pos (by simp [parsed]), List.length_cons, List.length_cons]
      exact congrArg (· + 1) (ih _)

end Runs

/-- After any frames, the next one pauses the run exactly if its breakpoint denotes a node, and then
does nothing else; otherwise it reports errors exactly if they are present and the evaluated node is
known, and then does nothing else; otherwise it lists the evaluated node and those of the results.
Malformed frames and frames without data leave the pause alone. A run of frames asks for a redraw
for each that is well formed, and brings the paused and failed nodes to the user's attention, no
others. -/
theorem frames_by_priority (s : Scene) (frames : List (String × String)) :
    let s₁ := s.receiveAll frames
    s.Shows (s.outcomes frames) s₁ ∧
      (s.outcomes frames).length = (frames.filter fun f => (Frame.ofText? f.2).isSome).length ∧
      ∀ now text,
        (Frame.ofText? text = none →
          s₁.applyText now text = .error .malformed ∧ s₁.receive now text = s₁) ∧
        ∀ f, Frame.ofText? text = some f → ∃ s₂ outcome,
          s₁.applyText now text = .ok (s₂, outcome) ∧ s₁.receive now text = s₂ ∧
          s₁.Shows [outcome] s₂ ∧ (f.data = none → outcome = .ignored ∧ s₂ = s₁.redraw) ∧
          ∀ d, f.data = some d → Prioritizes s.graph d s₁ s₂ outcome := by
  intro s₁
  have shows := s.shows_receiveAll frames
  refine ⟨shows, s.length_outcomes frames, fun now text => ⟨fun malformed => ?_, ?_⟩⟩
  · have failed : s₁.applyText now text = .error .malformed := by rw [applyText, malformed]
    exact ⟨failed, receive_of_malformed malformed now⟩
  · intro f parsed
    have ok : s₁.applyText now text = .ok (s₁.applyFrame now f) := by rw [applyText, parsed]
    refine ⟨(s₁.applyFrame now f).1, (s₁.applyFrame now f).2, ok, ?_, ?_, ?_, ?_⟩
    · rw [receive, ok]
    · exact s₁.shows_applyFrame now f
    · intro none
      rw [applyFrame, none]
      exact ⟨rfl, rfl⟩
    · intro d given
      have known : s₁.graph.hasNode = s.graph.hasNode := by
        funext id
        rw [Graph.hasNode, Graph.hasNode, shows.index]
      rw [applyFrame, given]
      exact (s₁.acts_applyData now d).prioritizes.congr known

/-- A malformed frame and a pause at a node come before a breakpoint at an unknown node, no errors,
an evaluation and results of which one is empty. -/
theorem unknown_breakpoint_ends_pause :
    let step : Node := { type := "Step" }
    let frame (data : Members) : String := (Value.object [("data", .object data)]).compact
    let frames := [("noon", "data"), ("noon", frame [("breakpoint", .string "2")])]
    let text := frame [("breakpoint", .ofInt 9), ("node_errors", .array []),
      ("evaluation_action", .object [("node_id", .string "1")]),
      ("results", .object [("3", .ofInt 1), ("2", .null)])]
    ∃ g s₁ s₂ d, Graph.empty.run [.addNode step, .addNode step, .addNode step] = some g ∧
      ({ graph := g } : Scene).receiveAll frames = s₁ ∧
      s₁.paused = true ∧ s₁.canvas.centered = some 2 ∧
      (s₁.graph.nodes.map (·.color)) = [none, some "#2a363b", none] ∧
      s₁.receive "noon" text = s₂ ∧ Prioritizes g d s₁ s₂ (.updated (some 1) [3]) ∧
      s₂.paused = false ∧ s₂.canvas.centered = some 2 := by
  intro step frame frames text
  let g := (Graph.empty.run [.addNode step, .addNode step, .addNode step]).get (by decide)
  let s₁ := ({ graph := g } : Scene).receiveAll frames
  have ran : Graph.empty.run [.addNode step, .addNode step, .addNode step] = some g :=
    (Option.some_get _).symm
  obtain ⟨shows, _, next⟩ := frames_by_priority { graph := g } frames
  have before : ({ graph := g } : Scene).outcomes frames = [.paused 2] := by decide +kernel
  rw [before] at shows
  have parsed : ((Frame.ofText? text).bind (·.data)).isSome = true := by decide +kernel
  have updated : (s₁.applyText "noon" text).toOption.map (·.2) = some (.updated (some 1) [3]) := by
    decide +kernel
  obtain ⟨d, given⟩ := Option.isSome_iff_exists.1 parsed
  obtain ⟨f, parsed, given⟩ := Option.bind_eq_some_iff.1 given
  obtain ⟨s₂, outcome, ok, received, later, _, data⟩ := (next "noon" text).2 f parsed
  have same : (s₁.applyText "noon" text).toOption.map (·.2) = some outcome := by rw [ok]; rfl
  cases updated.symm.trans same
  refine ⟨g, s₁, s₂, d, ran, rfl, shows.paused, shows.centered, ?_, received, data d given,
    later.paused, later.centered.trans shows.centered⟩
  decide +kernel

end Scene

end Flowgraph
