import Flowgraph.Proofs.Intervention.Colors
import Flowgraph.Proofs.Realtime.Priority

namespace Flowgraph

open Json

/-- What a frame reports about a node. -/
inductive Report where
  | pause
  | errors (found : Value)
  | evaluation (now : String) (action : Value)
  | result (promptId : Option Value) (value : Value)

namespace Report

def errors? : Report → Option (Option Value)
  | .errors found => some (some found)
  | .result .. => some none
  | _ => none

def action? : Report → Option Value
  | .evaluation _ action => some action
  | _ => none

def start? : Report → Option String
  | .evaluation now _ => some now
  | _ => none

/-- A result with the prompt it belongs to. -/
def result? : Report → Option (Option Value × Value)
  | .result promptId value => some (promptId, value)
  | _ => none

variable {α : Type} {f : Report → Option α} {a : α} {r : Report} {rs after : List Report}

def latest? (f : Report → Option α) (rs : List Report) : Option α := (rs.filterMap f).getLast?

theorem latest?_append (f : Report → Option α) (rs after : List Report) :
    latest? f (rs ++ after) = (latest? f after).or (latest? f rs) := by
  rw [latest?, List.filterMap_append, List.getLast?_append]
  rfl

theorem latest?_singleton (f : Report → Option α) (r : Report) : latest? f [r] = f r := by
  rw [latest?, List.filterMap_cons]
  cases f r <;> rfl

theorem latest?_concat (f : Report → Option α) (rs : List Report) (r : Report) :
    latest? f (rs ++ [r]) = (f r).or (latest? f rs) := by
  rw [latest?_append, latest?_singleton]

theorem latest?_of_silent (silent : ∀ r ∈ rs, f r = none) : latest? f rs = none := by
  rw [latest?, List.filterMap_eq_nil_iff.2 silent]
  rfl

theorem latest?_of_told (told : f r = some a) (silent : ∀ r ∈ after, f r = none) :
    latest? f (rs ++ r :: after) = some a := by
  rw [List.append_cons, latest?_append, latest?_of_silent silent, latest?_concat, told]
  rfl

end Report

namespace Node

variable {n n' : Node} {r : Report} {rs : List Report}

def property? (n : Node) (k : String) : Option Value := Members.get? k n.properties

/-- When the evaluation of a node started, by its result. -/
def startTime? (n : Node) : Option Value := (n.property? "result").bind (·.get? "timestamp")

def resultMembers (n : Node) : Members :=
  match n.property? "result" with
  | some (.object ms) => ms
  | _ => []

theorem resultMembers_of_object {ms : Members} (object : n.property? "result" = some (.object ms)) :
    n.resultMembers = ms := by
  rw [resultMembers, object]

/-- The members of a node's result after a result came in. -/
def reportedMembers (promptId : Option Value) (value : Value) (time : Option Value) : Members :=
  let stamp := time.map fun t => ("timestamp", t)
  [("prompt_id", promptId.getD .null), ("result", value)] ++ stamp.toList

theorem put_timestamp (promptId : Option Value) (value : Value) (time : Option Value)
    (now : Value) : Members.put "timestamp" now (reportedMembers promptId value time) =
      reportedMembers promptId value (some now) := by
  cases time <;> rfl

theorem get?_timestamp (promptId : Option Value) (value : Value) (time : Option Value) :
    Members.get? "timestamp" (reportedMembers promptId value time) = time := by
  cases time <;> rfl

def note (n : Node) : Report → Node
  | .pause => n.markPaused
  | .errors found => n.recordErrors found
  | .evaluation now action => n.recordEvaluation now action
  | .result promptId value => n.recordResult promptId value

def noteAll (n : Node) (rs : List Report) : Node := rs.foldl note n

theorem distinct_note (distinct : Members.Distinct n.properties) (r : Report) :
    Members.Distinct (n.note r).properties := by
  cases r with
  | pause => exact (reported_markPaused n).distinct distinct
  | errors found => exact (reported_recordErrors found n).distinct distinct
  | evaluation now action => exact (reported_recordEvaluation now action n).distinct distinct
  | result promptId value => exact (reported_recordResult promptId value n).distinct distinct

theorem property?_recordErrors (found : Value) (n : Node) (k : String) :
    (n.recordErrors found).property? k =
      if "node_errors" = k then some found else n.property? k :=
  Members.get?_put ..

theorem property?_recordEvaluation (now : String) (action : Value) (n : Node) (k : String) :
    (n.recordEvaluation now action).property? k =
      if "result" = k then some (.object (Members.put "timestamp" (.string now) n.resultMembers))
      else if "evaluation_action" = k then some action
      else n.property? k := by
  let acted := Members.put "evaluation_action" action n.properties
  have put (k : String) := Members.get?_put k "evaluation_action" action n.properties
  have stamped : stampedResult now acted =
      .object (Members.put "timestamp" (.string now) n.resultMembers) := by
    rw [stampedResult, put]
    rfl
  have written : (n.recordEvaluation now action).property? k =
      if "result" = k then some (stampedResult now acted) else Members.get? k acted :=
    Members.get?_put ..
  rw [written, stamped, put]
  rfl

theorem property?_recordResult (distinct : Members.Distinct n.properties)
    (promptId : Option Value) (value : Value) (k : String) :
    (n.recordResult promptId value).property? k =
      if "node_errors" = k then none
      else if "result" = k then some (.object (reportedMembers promptId value n.startTime?))
      else n.property? k := by
  have stored := distinct.put "result" (.object (reportedMembers promptId value n.startTime?))
  have erased := Members.get?_erase stored k "node_errors"
  rw [Members.get?_put] at erased
  exact erased

section Readings

variable (distinct : Members.Distinct n.properties) (r : Report)
include distinct

theorem property?_note (k : String) : (n.note r).property? k =
    match r with
    | .pause => n.property? k
    | .errors found => if "node_errors" = k then some found else n.property? k
    | .evaluation now action =>
      if "result" = k then some (.object (Members.put "timestamp" (.string now) n.resultMembers))
      else if "evaluation_action" = k then some action
      else n.property? k
    | .result promptId value =>
      if "node_errors" = k then none
      else if "result" = k then some (.object (reportedMembers promptId value n.startTime?))
      else n.property? k := by
  cases r with
  | pause => rfl
  | errors found => exact property?_recordErrors found n k
  | evaluation now action => exact property?_recordEvaluation now action n k
  | result promptId value => exact property?_recordResult distinct promptId value k

theorem errors_note :
    (n.note r).property? "node_errors" = r.errors?.getD (n.property? "node_errors") := by
  rw [property?_note distinct]
  cases r <;> rfl

theorem action_note : (n.note r).property? "evaluation_action" =
    r.action?.or (n.property? "evaluation_action") := by
  rw [property?_note distinct]
  cases r <;> rfl

theorem result_note : (n.note r).property? "result" =
    match r with
    | .evaluation now _ => some (.object (Members.put "timestamp" (.string now) n.resultMembers))
    | .result promptId value => some (.object (reportedMembers promptId value n.startTime?))
    | _ => n.property? "result" := by
  rw [property?_note distinct]
  cases r <;> rfl

theorem startTime?_note :
    (n.note r).startTime? = (r.start?.map .string).or n.startTime? := by
  rw [startTime?, result_note distinct]
  cases r with
  | pause => rfl
  | errors found => rfl
  | evaluation now action => exact (Members.get?_put ..).trans (if_pos rfl)
  | result promptId value => exact get?_timestamp promptId value n.startTime?

end Readings

/-- What a node's properties tell after some reports. -/
structure Recalls (n : Node) (rs : List Report) (n' : Node) : Prop where
  distinct : Members.Distinct n'.properties
  errors : n'.property? "node_errors" =
    (Report.latest? Report.errors? rs).getD (n.property? "node_errors")
  action : n'.property? "evaluation_action" =
    (Report.latest? Report.action? rs).or (n.property? "evaluation_action")
  start : n'.startTime? = ((Report.latest? Report.start? rs).map .string).or n.startTime?
  result : ∀ promptId value, Report.latest? Report.result? rs = some (promptId, value) →
    n'.property? "result" = some (.object (reportedMembers promptId value n'.startTime?))
  /-- Without a result, an evaluation leaves its time in what there was. -/
  stamped : Report.latest? Report.result? rs = none →
    ∀ now, Report.latest? Report.start? rs = some now → n'.property? "result" =
      some (.object (Members.put "timestamp" (.string now) n.resultMembers))
  silent : Report.latest? Report.result? rs = none → Report.latest? Report.start? rs = none →
    n'.property? "result" = n.property? "result"

theorem Recalls.refl (distinct : Members.Distinct n.properties) : n.Recalls [] n where
  distinct := distinct
  errors := rfl
  action := rfl
  start := rfl
  result := nofun
  stamped _ := nofun
  silent _ _ := rfl

theorem Recalls.note (h : n.Recalls rs n') (r : Report) :
    n.Recalls (rs ++ [r]) (n'.note r) where
  distinct := distinct_note h.distinct r
  errors := by rw [errors_note h.distinct, h.errors, Report.latest?_concat, Option.getD_or]
  action := by rw [action_note h.distinct, h.action, Report.latest?_concat, Option.or_assoc]
  start := by
    rw [startTime?_note h.distinct, h.start, Report.latest?_concat, Option.map_or,
      Option.or_assoc]
  result promptId value last := by
    rw [startTime?_note h.distinct, result_note h.distinct]
    rw [Report.latest?_concat] at last
    cases r with
    | pause => exact h.result promptId value last
    | errors found => exact h.result promptId value last
    | evaluation now action =>
      dsimp only
      rw [resultMembers_of_object (h.result promptId value last), put_timestamp]
      rfl
    | result promptId' value' =>
      cases last
      rfl
  stamped unresolved now last := by
    rw [Report.latest?_concat] at unresolved last
    obtain ⟨unresolved', unresolved⟩ := Option.or_eq_none_iff.1 unresolved
    rw [result_note h.distinct]
    cases r with
    | pause => exact h.stamped unresolved now last
    | errors found => exact h.stamped unresolved now last
    | result promptId value => cases unresolved'
    | evaluation now' action =>
      cases last
      dsimp only
      cases before : Report.latest? Report.start? rs with
      | none => rw [resultMembers, h.silent unresolved before, ← resultMembers]
      | some time =>
        rw [resultMembers_of_object (h.stamped unresolved time before), Members.put_put]
  silent unresolved unstarted := by
    rw [Report.latest?_concat] at unresolved unstarted
    obtain ⟨unresolved', unresolved⟩ := Option.or_eq_none_iff.1 unresolved
    obtain ⟨unstarted', unstarted⟩ := Option.or_eq_none_iff.1 unstarted
    rw [result_note h.distinct, ← h.silent unresolved unstarted]
    cases r with
    | pause => rfl
    | errors found => rfl
    | evaluation now action => cases unstarted'
    | result promptId value => cases unresolved'

theorem recalls_noteAll (distinct : Members.Distinct n.properties) (rs : List Report) :
    n.Recalls rs (n.noteAll rs) := by
  induction rs using List.reverseRecOn with
  | nil => exact .refl distinct
  | append_singleton rs r ih =>
    rw [noteAll, List.foldl_append]
    exact ih.note r

end Node

namespace Graph

variable {g g' g'' : Graph} {i : Nat} {rs rs' : List Report}

/-- A graph and the same graph after reports about the node at a position. -/
structure NotedAt (i : Nat) (rs : List Report) (g g' : Graph) : Prop where
  index : g'.index = g.index
  node : g'.nodes[i]? = g.nodes[i]?.map fun n => n.noteAll rs

namespace NotedAt

theorem refl (i : Nat) (g : Graph) : g.NotedAt i [] g where
  index := rfl
  node := Option.map_id'.symm

theorem trans (first : g.NotedAt i rs g') (second : g'.NotedAt i rs' g'') :
    g.NotedAt i (rs ++ rs') g'' where
  index := second.index.trans first.index
  node := by
    rw [second.node, first.node, Option.map_map]
    congr 1
    funext n
    exact List.foldl_append.symm

theorem leadsTo (r : g.NotedAt i rs g') (j : Nat) : g'.leadsTo j = g.leadsTo j := by
  unfold Graph.leadsTo
  rw [r.index]

theorem modifyNode {f : Node → Node} {r : Report} (id : NodeId) (notes : ∀ n, f n = n.note r) :
    g.NotedAt i (if g.leadsTo i id then [r] else []) (g.modifyNode id f) := by
  refine ⟨Graph.modifyNode_index .., ?_⟩
  rw [getElem?_modifyNode]
  split
  · rw [funext notes]
    rfl
  · exact Option.map_id'.symm

end NotedAt

end Graph

/-- What a frame with an outcome reports about the node at a position, results in the order of their
entries. -/
def FrameData.reports (d : FrameData) (g : Graph) (i : Nat) (now : String) : Outcome → List Report
  | .paused id => if g.leadsTo i id then [.pause] else []
  | .errored id => if g.leadsTo i id then d.nodeErrors.toList.map .errors else []
  | .updated evaluated _ =>
    let here (entry : String × Value) : Bool := (resolve? g entry).any (g.leadsTo i)
    (if evaluated.any (g.leadsTo i) then d.evaluationAction.toList.map (.evaluation now) else []) ++
      ((d.results.getD []).filter here).map fun entry => .result d.promptId entry.2
  | .ignored => []

namespace Scene

variable {s s' : Scene} {now : String} {d : FrameData} {outcome : Outcome}

theorem notedAt_applyResults (promptId : Option Value) (entries : Members) (s : Scene)
    (ids : List NodeId) (i : Nat) :
    s.graph.NotedAt i
      ((entries.filter fun entry =>
        (FrameData.resolve? s.graph entry).any (s.graph.leadsTo i)).map fun entry =>
          .result promptId entry.2)
      (entries.foldl (applyResult promptId) (s, ids)).1.graph := by
  induction entries generalizing s ids with
  | nil => exact .refl i s.graph
  | cons entry rest ih =>
    rw [List.foldl_cons, applyResult_eq, List.filter_cons]
    cases FrameData.resolve? s.graph entry with
    | none => exact ih s ids
    | some id =>
      have first : s.graph.NotedAt i
          (if s.graph.leadsTo i id then [.result promptId entry.2] else [])
          (s.graph.modifyNode id (Node.recordResult promptId entry.2)) :=
        .modifyNode id fun _ => rfl
      have later := ih
        { s with graph := s.graph.modifyNode id (Node.recordResult promptId entry.2) } (ids ++ [id])
      dsimp only at later
      rw [resolve?_of_index first.index, first.leadsTo] at later
      have all := first.trans later
      rw [Option.any_some]
      split
      · next here =>
        rw [if_pos here] at all
        exact all
      · next elsewhere =>
        rw [if_neg elsewhere] at all
        exact all

theorem notedAt_evaluate (g : Graph) (now : String) (d : FrameData) (evaluated : Option NodeId)
    (i : Nat) :
    g.NotedAt i
      (if evaluated.any (g.leadsTo i) then d.evaluationAction.toList.map (.evaluation now) else [])
      (evaluate g now d evaluated) := by
  unfold evaluate
  cases evaluated with
  | none => cases d.evaluationAction <;> exact .refl i g
  | some id =>
    cases d.evaluationAction with
    | none =>
      rw [Option.toList_none, List.map_nil, ite_self]
      exact .refl i g
    | some action => exact .modifyNode id fun _ => rfl

theorem Acts.notedAt (acts : s.Acts now d s' outcome) (i : Nat) :
    s.graph.NotedAt i (d.reports s.graph i now outcome) s'.graph := by
  cases acts with
  | paused breaks => exact .modifyNode _ fun _ => rfl
  | errored runs given present evaluates =>
    rw [FrameData.reports, given]
    exact .modifyNode _ fun _ => rfl
  | @updated evaluated g runs clean evaluates index recorded =>
    have first := notedAt_evaluate s.graph now d evaluated i
    have later := notedAt_applyResults d.promptId (d.results.getD [])
      { s with graph := evaluate s.graph now d evaluated, paused := false } [] i
    rw [recorded] at later
    dsimp only at later
    rw [resolve?_of_index first.index, first.leadsTo] at later
    exact first.trans later

/-- What the text of a frame reports about the node at a position. -/
def reports (s : Scene) (i : Nat) (now text : String) : List Report :=
  match (Frame.ofText? text).bind (·.data) with
  | some d => d.reports s.graph i now (s.applyData now d).2
  | none => []

/-- What frames report about the node at a position, each at a time of day. -/
def reportsOf (i : Nat) : Scene → List (String × String) → List Report
  | _, [] => []
  | s, (now, text) :: rest => s.reports i now text ++ reportsOf i (s.receive now text) rest

theorem notedAt_receive (s : Scene) (i : Nat) (now text : String) :
    s.graph.NotedAt i (s.reports i now text) (s.receive now text).graph := by
  unfold reports receive applyText
  cases Frame.ofText? text with
  | none => exact .refl i s.graph
  | some f =>
    rw [Option.bind_some]
    dsimp only [applyFrame]
    cases f.data with
    | none => exact .refl i s.graph
    | some d => exact (s.acts_applyData now d).notedAt i

theorem notedAt_receiveAll (s : Scene) (i : Nat) (frames : List (String × String)) :
    s.graph.NotedAt i (s.reportsOf i frames) (s.receiveAll frames).graph := by
  induction frames generalizing s with
  | nil => exact .refl i s.graph
  | cons frame rest ih => exact (s.notedAt_receive i frame.1 frame.2).trans (ih _)

/-- After any frames, a node is what the reports about it make of it, one after the other. Its
errors are the last that were reported, unless a result came in later; its evaluation is the last
one; its result is the last one, with the time of the last evaluation and nothing else. As long as
there is none, an evaluation leaves its time in what the node had for a result. So the time of an
evaluation stays until the next one, whatever is reported in between. -/
theorem result_of_history (s : Scene) (frames : List (String × String)) (i : Nat) {n : Node}
    (there : s.graph.nodes[i]? = some n) (distinct : Members.Distinct n.properties) :
    ∃ n', (s.receiveAll frames).graph.nodes[i]? = some n' ∧
      n' = n.noteAll (s.reportsOf i frames) ∧ n.Recalls (s.reportsOf i frames) n' ∧
      ∀ before now action after,
        s.reportsOf i frames = before ++ .evaluation now action :: after →
        (∀ r ∈ after, r.start? = none) → n'.startTime? = some (.string now) := by
  have noted := (s.notedAt_receiveAll i frames).node
  have recalls := Node.recalls_noteAll distinct (s.reportsOf i frames)
  rw [there, Option.map_some] at noted
  refine ⟨n.noteAll (s.reportsOf i frames), noted, rfl, recalls, ?_⟩
  intro before now action after reported unstarted
  have last : Report.latest? Report.start? (s.reportsOf i frames) = some now := by
    rw [reported]
    exact Report.latest?_of_told rfl unstarted
  rw [recalls.start, last]
  rfl

/-- A node that starts with a text for a result is evaluated and has two results in one frame;
errors and another result follow. -/
theorem start_kept_through_results :
    let step : Node := { type := "Step", properties := [("result", .string "old")] }
    let frame (data : Members) : String := (Value.object [("data", .object data)]).compact
    let frames := [
      ("noon", frame [("evaluation_action", .object [("node_id", .string "1")]),
        ("prompt_id", .ofInt 7),
        ("results", .object [("1", .string "a"), ("9", .object [("node_id", .ofInt 1)])])]),
      ("one", frame [("node_errors", .array [.string "no"]),
        ("evaluation_action", .object [("node_id", .ofInt 1)])]),
      ("two", frame [("results", .object [("1", .string "b")])])]
    ∃ g, Graph.empty.run [.addNode step] = some g ∧ Members.Distinct step.properties ∧
      (({ graph := g } : Scene).reportsOf 0 frames).length = 5 ∧
      ∃ n', (({ graph := g } : Scene).receiveAll frames).graph.nodes[0]? = some n' ∧
        n'.property? "node_errors" = none ∧
        n'.property? "result" = some (.object
          [("prompt_id", .null), ("result", .string "b"), ("timestamp", .string "noon")]) := by
  intro step frame frames
  let g := (Graph.empty.run [.addNode step]).get (by decide)
  let s : Scene := { graph := g }
  have ran : Graph.empty.run [.addNode step] = some g := (Option.some_get _).symm
  have there : s.graph.nodes[0]? = some { step with id := 1 } := rfl
  have distinct : Members.Distinct step.properties := List.nodup_singleton _
  have reported : (s.reportsOf 0 frames).length = 5 ∧
      (Report.latest? Report.errors? (s.reportsOf 0 frames)).map Option.isNone = some true ∧
      Report.latest? Report.start? (s.reportsOf 0 frames) = some "noon" ∧
      (Report.latest? Report.result? (s.reportsOf 0 frames)).map
        (fun r => (r.1.isNone, r.2.string?)) = some (true, some "b") := by
    decide +kernel
  obtain ⟨five, cleared, start, last⟩ := reported
  obtain ⟨n', there', _, recalls, _⟩ := result_of_history s frames 0 there distinct
  refine ⟨g, ran, distinct, five, n', there', ?_, ?_⟩
  · obtain ⟨found, told, isNone⟩ := Option.map_eq_some_iff.1 cleared
    rw [recalls.errors, told]
    exact Option.isNone_iff_eq_none.1 isNone
  · have time : n'.startTime? = some (.string "noon") := by
      rw [recalls.start, start]
      rfl
    obtain ⟨⟨promptId, value⟩, told, same⟩ := Option.map_eq_some_iff.1 last
    obtain ⟨isNone, text⟩ := Prod.mk.inj same
    obtain rfl := Option.isNone_iff_eq_none.1 isNone
    cases value with
    | string b =>
      cases text
      rw [recalls.result _ _ told, time]
      rfl
    | _ => cases text

end Scene

end Flowgraph
