import Flowgraph.Proofs.Backend.Exchange
import Flowgraph.Proofs.Graph.Fit
import Flowgraph.Proofs.Intervention.Toggle
import Flowgraph.Proofs.Realtime.Frames
import Mathlib.Algebra.Ring.Parity

namespace Flowgraph

open Json

theorem Graph.Anchored.mem_stubs_iff {g : Graph} (a : g.Anchored) {id : NodeId} :
    id ∈ g.toSnapshot.stubs.map Prod.fst ↔ g.hasNode id = true := by
  have perm := (sortBy_perm Prod.fst (g.nodes.map fun n => (n.id, n.type))).map Prod.fst
  rw [stubs_toSnapshot, perm.mem_iff, List.map_map, a.hasNode_iff]
  exact List.mem_map

/-- A request posts nodes of a workflow, at which to intervene and at no others. -/
structure Request.Posts (r : Request) (k : Intervention) (workflow : String) (ids : List NodeId) :
    Prop where
  method : r.method = "POST"
  path : r.path = match k with
    | .breakpoint => "/interventions/breakpoints"
    | .stop => "/interventions/stop-points"
    | .restart => "/interventions/restart-points"
  body : r.body = (Value.object [("workflow_id", .string workflow),
    ("node_ids", .array (ids.map fun id => .string (toString id))),
    (match k with
      | .breakpoint => "all_break"
      | .stop => "all_stop"
      | .restart => "all_restart", .bool false)]).compact

theorem Request.posts_intervene (k : Intervention) (workflow : String) (ids : List NodeId) :
    (control (.intervene k workflow (ids.map toString) false)).Posts k workflow ids where
  method := rfl
  path := by cases k <;> rfl
  body := by
    simp only [body, Command.encode, Command.target, List.map_map]
    cases k <;> rfl

namespace Workspace

/-- What happens to a workspace between and around toggles. -/
inductive Event where
  | toggle (now : Clock) (k : Intervention) (all : Bool)
  | step (now : Clock)
  | frame (now : Clock) (text : String)
  | edit (op : Operation)
  /-- The canvas changes, and with it the selection. -/
  | display (canvas : Canvas)

def Event.isSwitch : Event → Bool
  | .toggle _ _ all => !all
  | _ => false

/-- The workspace after an event. An edit that runs out of ids stops a program; here it is passed
over, so that what holds of all runs holds of all that a program goes through. -/
def handle (w : Workspace) : Event → Workspace
  | .toggle now k all => (w.toggle now k all).1
  | .step now => (w.step now).1
  | .frame now text => w.receive now text
  | .edit op => w.onGraph fun g => (g.apply op).getD g
  | .display canvas => w.onCanvas fun _ => canvas

def run (w : Workspace) (es : List Event) : Workspace := es.foldl handle w

/-- Whether an event switches an intervention at a node while the graph has a checksum. -/
def switches (w : Workspace) (k : Intervention) (checksum : String) (id : NodeId) : Event → Bool
  | .toggle _ k' false => decide (k = k' ∧ checksum = w.control.checksum ∧
      id ∈ w.control.selection ∧ w.graph.hasNode id = true)
  | _ => false

/-- How often a run switches an intervention at a node while the graph has a checksum. -/
def timesSwitched (k : Intervention) (checksum : String) (id : NodeId) :
    Workspace → List Event → Nat
  | _, [] => 0
  | w, e :: es => (w.switches k checksum id e).toNat + timesSwitched k checksum id (w.handle e) es

def switchings (w : Workspace) : List Event → List Workspace
  | [] => []
  | e :: es =>
    if e.isSwitch then w :: (w.handle e).switchings es else (w.handle e).switchings es

/-- The text that the checksum of the graph is taken of. -/
def digested (w : Workspace) : String := w.graph.toSnapshot.structureValue.compact

/-- Digests tell the text of a workspace from the texts of others. -/
def ToldApart (us : List Workspace) (w : Workspace) : Prop :=
  ∀ u ∈ us, Digest.ofText u.digested = Digest.ofText w.digested → u.digested = w.digested

variable {w : Workspace}

theorem give_control (w : Workspace) (now : Clock) (r : Control × Except GraphError Command) :
    (w.give now r).1.control = r.1 := by
  unfold give
  cases r.2 <;> rfl

theorem toggle_control (w : Workspace) (now : Clock) (k : Intervention) (all : Bool) :
    (w.toggle now k all).1.control = (w.control.toggle k all).1 :=
  w.give_control now _

theorem toggle_of_selected (now : Clock) (k : Intervention) (selected : w.control.selection ≠ []) :
    w.toggle now k false = ({ w with control := (w.control.toggle k false).1 } : Workspace).ask now
      (.control (.intervene k w.control.checksum
        (((w.control.toggle k false).1.sets.get k w.control.checksum).ids.map toString) false)) := by
  rw [toggle, give, w.control.toggle_of_selected k selected, InterventionSets.nodeIds_eq]

theorem toggle_of_unselected (now : Clock) (k : Intervention)
    (unselected : w.control.selection = []) : w.toggle now k false =
      ({ w with control := w.control.refuse.1 }, .error (.graph .noSelection)) := by
  rw [toggle, give, w.control.toggle_of_unselected k unselected]
  rfl

theorem receive_eq (w : Workspace) (now : Clock) (text : String) :
    w.receive now text = w.onScene fun s => s.receive now.timestamp text := by
  unfold receive Scene.receive onScene
  split
  · next ok => simp only [ok]
  · next error => simp only [error]

section Steps

variable (w : Workspace) (e : Event)

theorem sets_handle (idle : e.isSwitch = false) :
    (w.handle e).control.sets = w.control.sets := by
  cases e with
  | toggle now k all =>
    cases all with
    | true => rw [handle, toggle_control, Control.toggle, if_pos rfl]
    | false => cases idle
  | step now => rw [handle, step, give_control, Control.step_sets]
  | frame now text =>
    rw [handle, receive_eq]
    rfl
  | edit op => rfl
  | display canvas => rfl

variable (k : Intervention) (checksum : String) (id : NodeId)

theorem switches_of_idle (idle : e.isSwitch = false) : w.switches k checksum id e = false := by
  unfold switches
  split
  · cases idle
  · rfl

theorem contains_handle : (w.handle e).control.sets.contains k checksum id =
    (w.control.sets.contains k checksum id ^^ w.switches k checksum id e) := by
  cases switch : e.isSwitch with
  | false => rw [sets_handle w e switch, switches_of_idle w e k checksum id switch, Bool.xor_false]
  | true =>
    unfold Event.isSwitch at switch
    split at switch
    · next now k' all =>
      obtain rfl : all = false := by simpa using switch
      rw [handle, toggle_control]
      exact w.control.contains_toggle k' k checksum id
    · cases switch

theorem anchored_handle (a : w.graph.Anchored) : (w.handle e).graph.Anchored := by
  cases e with
  | toggle now k all =>
    rw [handle, graph, toggle_control]
    exact a.thinner (w.control.reportedAt_toggle k all).thinner
  | step now =>
    rw [handle, step, graph, give_control, Control.step_graph]
    exact a
  | frame now text =>
    rw [handle, receive_eq]
    exact a.thinner (w.control.scene.receive_reportedAt now.timestamp text).thinner
  | edit op =>
    change ((w.graph.apply op).getD w.graph).Anchored
    cases applied : w.graph.apply op with
    | none => exact a
    | some g => exact a.apply applied
  | display canvas => exact a

end Steps

theorem run_append (w : Workspace) (es : List Event) (e : Event) :
    w.run (es ++ [e]) = (w.run es).handle e := by
  rw [run, List.foldl_append]
  rfl

theorem odd_toNat_add (b : Bool) (n : Nat) :
    decide (Odd (b.toNat + n)) = (b ^^ decide (Odd n)) := by
  cases b with
  | false => rw [Bool.toNat_false, Nat.zero_add, Bool.false_xor]
  | true =>
    rw [Bool.toNat_true, Nat.add_comm, Bool.true_xor, ← decide_not]
    exact decide_eq_decide.2 Nat.odd_add_one

/-- An odd number of switchings takes a node into a set or out of it, an even number leaves it. -/
theorem contains_run (w : Workspace) (es : List Event) (k : Intervention) (checksum : String)
    (id : NodeId) : (w.run es).control.sets.contains k checksum id =
      (w.control.sets.contains k checksum id ^^
        decide (Odd (timesSwitched k checksum id w es))) := by
  induction es generalizing w with
  | nil => simp [run, timesSwitched]
  | cons e es ih =>
    have later := ih (w.handle e)
    rw [contains_handle, Bool.xor_assoc] at later
    rw [timesSwitched, odd_toNat_add]
    exact later

theorem timesSwitched_append (w : Workspace) (es : List Event) (e : Event) (k : Intervention)
    (checksum : String) (id : NodeId) : timesSwitched k checksum id w (es ++ [e]) =
      timesSwitched k checksum id w es + ((w.run es).switches k checksum id e).toNat := by
  induction es generalizing w with
  | nil => simp [run, timesSwitched]
  | cons d es ih =>
    rw [List.cons_append, timesSwitched, timesSwitched, ih, Nat.add_assoc]
    rfl

theorem anchored_run (a : w.graph.Anchored) (es : List Event) : (w.run es).graph.Anchored := by
  induction es generalizing w with
  | nil => exact a
  | cons e es ih => exact ih (w.anchored_handle e a)

theorem isSwitch_of_switches {k : Intervention} {checksum : String} {id : NodeId} {e : Event}
    (switched : w.switches k checksum id e = true) :
    e.isSwitch = true ∧ w.control.checksum = checksum ∧ w.graph.hasNode id = true := by
  unfold switches at switched
  split at switched
  · obtain ⟨_, same, _, known⟩ := of_decide_eq_true switched
    exact ⟨rfl, same.symm, known⟩
  · cases switched

theorem exists_switching {k : Intervention} {checksum : String} {id : NodeId} {es : List Event}
    (a : w.graph.Anchored) (pos : 0 < timesSwitched k checksum id w es) :
    ∃ u ∈ w.switchings es,
      u.graph.Anchored ∧ u.control.checksum = checksum ∧ u.graph.hasNode id = true := by
  induction es generalizing w with
  | nil => cases pos
  | cons e es ih =>
    rw [switchings]
    cases switched : w.switches k checksum id e with
    | true =>
      obtain ⟨isSwitch, there⟩ := isSwitch_of_switches switched
      rw [if_pos isSwitch]
      exact ⟨w, List.mem_cons_self, a, there⟩
    | false =>
      rw [timesSwitched, switched, Bool.toNat_false, Nat.zero_add] at pos
      obtain ⟨u, hu, there⟩ := ih (w.anchored_handle e a) pos
      refine ⟨u, ?_, there⟩
      split
      · exact List.mem_cons_of_mem w hu
      · exact hu

/-- If digests tell texts apart, the nodes that were switched at the present checksum are there. -/
theorem hasNode_of_switched {k : Intervention} {es : List Event} {id : NodeId}
    (a : w.graph.Anchored) (apart : ToldApart (w.switchings es) (w.run es))
    (pos : 0 < timesSwitched k (w.run es).control.checksum id w es) :
    (w.run es).graph.hasNode id = true := by
  obtain ⟨u, hu, anchored, checksum, known⟩ := exists_switching a pos
  have stubs := Snapshot.stubs_of_text (apart u hu checksum)
  rw [← (anchored_run a es).mem_stubs_iff, ← stubs, anchored.mem_stubs_iff]
  exact known

section Runs

variable (settings : Settings) (storage : Storage) (remote : Backend) (registry : ExtensionRegistry)
  (es : List Event)

theorem contains_run_create (k : Intervention) (checksum : String) (id : NodeId) :
    ((create settings storage remote registry).run es).control.sets.contains k checksum id = true ↔
      Odd (timesSwitched k checksum id (create settings storage remote registry) es) := by
  have empty : (create settings storage remote registry).control.sets.contains k checksum id =
      false := by
    cases k <;> rfl
  rw [contains_run, empty, Bool.false_xor, decide_eq_true_eq]

/-- Whatever the backend answers, now and before, a toggle of an intervention posts the nodes at
which it was switched an odd number of times while the graph had the present checksum, in ascending
order; if digests tell texts apart, these are nodes of the graph. It keeps the checksum, and it
changes sets only of its kind under that checksum and only at selected nodes of the graph. Nothing
else changes any set. -/
theorem toggle_asks_for_odd (now : Clock) (k : Intervention) :
    let start := create settings storage remote registry
    let w := start.run es
    let checksum := w.control.checksum
    let toggled := (w.toggle now k false).1.control
    let reply := w.remote.replies.head?.getD w.remote.reply
    let vouched := w.account.headers now.seconds
    (w.control.selection ≠ [] → ∃ (ids : List NodeId) (r : Request),
      r.Posts k checksum ids ∧
      w.toggle now k false = ({ w with
        control := toggled
        account := (vouched.1.receive reply).1
        remote := { w.remote with
          replies := w.remote.replies.drop 1
          received := w.remote.received ++ match reply with
            | .answered .. => [.request r vouched.2]
            | .unanswered _ => [] } }, reply.value) ∧
      ids.Pairwise (· < ·) ∧
      (∀ id, id ∈ ids ↔ Odd (timesSwitched k checksum id start (es ++ [.toggle now k false]))) ∧
      (ToldApart (start.switchings es) w → ∀ id ∈ ids, toggled.scene.graph.hasNode id = true)) ∧
    (w.control.selection = [] →
      w.toggle now k false = ({ w with control := toggled }, .error (.graph .noSelection)) ∧
        toggled.sets = w.control.sets) ∧
    toggled.checksum = checksum ∧
    (∀ k' checksum' id, toggled.sets.contains k' checksum' id =
      (w.control.sets.contains k' checksum' id ^^ decide (k' = k ∧ checksum' = checksum ∧
        id ∈ w.control.selection ∧ w.graph.hasNode id = true))) ∧
    ∀ e : Event, e.isSwitch = false → (w.handle e).control.sets = w.control.sets := by
  intro start w checksum toggled reply vouched
  have control : toggled = (w.control.toggle k false).1 := w.toggle_control now k false
  have reported : w.graph.ReportedAt w.control.selection toggled.scene.graph := by
    rw [control]
    exact w.control.reportedAt_toggle k false
  have kept : toggled.checksum = w.control.checksum := reported.checksum
  refine ⟨?_, ?_, kept, ?_, w.sets_handle⟩
  · intro selected
    have counted (id : NodeId) : id ∈ (toggled.sets.get k checksum).ids ↔
        Odd (timesSwitched k checksum id start (es ++ [.toggle now k false])) := by
      have last : start.run (es ++ [.toggle now k false]) = (w.toggle now k false).1 :=
        start.run_append es _
      rw [InterventionSets.mem_ids_iff, ← contains_run_create, last]
    refine ⟨(toggled.sets.get k checksum).ids, _, Request.posts_intervene .., ?_,
      SortedMap.keys_ascending _, counted, ?_⟩
    · rw [toggle_of_selected now k selected, ask_eq, ← control]
      rfl
    · intro apart id hid
      obtain ⟨m, odd⟩ := (counted id).1 hid
      rw [timesSwitched_append] at odd
      rw [reported.hasNode]
      cases switched : w.switches k checksum id (.toggle now k false) with
      | true => exact (of_decide_eq_true switched).2.2.2
      | false =>
        rw [switched, Bool.toNat_false, Nat.add_zero] at odd
        have pos : 0 < timesSwitched k checksum id start es := by omega
        exact hasNode_of_switched Graph.Sound.empty.anchored apart pos
  · intro unselected
    have refused := toggle_of_unselected now k unselected
    have left : toggled = w.control.refuse.1 := congrArg (fun r => r.1.control) refused
    rw [left]
    exact ⟨refused, rfl⟩
  · intro k' checksum' id
    rw [control]
    exact w.control.contains_toggle k k' checksum' id

end Runs

/-- Nodes 1 and 2 and an id that no node has are selected, then node 1 alone; the first request does
not get through. -/
theorem node_asked_for_after_failure :
    let add (type : String) : Event := .edit (.addNode { type := type })
    let display (ids : List NodeId) : Event := .display { selected := ids.foldl IdSet.add .empty }
    let now := Clock.atMillis 0 []
    let backend : Backend := { Backend.unreachable with
      replies := [.unanswered ["down"]]
      reply := .answered 200 "" }
    let start := create default (.memory .empty) backend {}
    let es := [add "A", add "B", display [1, 2, 7], .toggle now .stop false, display [1]]
    let w := start.run es
    ∃ (ids : List NodeId) (r : Request),
      (w.toggle now .stop false).1.remote.received =
        [.request r [("content-type", "application/json")]] ∧
      r.Posts .stop w.control.checksum ids ∧ 2 ∈ ids ∧ 1 ∉ ids ∧ 7 ∉ ids ∧
      ∀ id ∈ ids, (w.toggle now .stop false).1.control.scene.graph.hasNode id = true := by
  intro add display now backend start es w
  let first := [add "A", add "B", display [1, 2, 7]]
  let u := start.run first
  have last : w = (u.toggle now .stop false).1.handle (display [1]) := by
    have toggled := start.run_append first (.toggle now .stop false)
    have shown := start.run_append (first ++ [.toggle now .stop false]) (display [1])
    rw [toggled] at shown
    exact shown
  have reported : u.graph.ReportedAt u.control.selection w.graph := by
    have graph : w.graph = (u.control.toggle .stop false).1.scene.graph := by
      rw [last, ← u.toggle_control now]
      rfl
    rw [graph]
    exact u.control.reportedAt_toggle .stop false
  have same : w.control.checksum = u.control.checksum := reported.checksum
  -- The first toggle is counted at `u`, the second at `w`.
  have count (id : NodeId) :
      timesSwitched .stop w.control.checksum id start (es ++ [.toggle now .stop false]) =
        (decide (id ∈ u.control.selection ∧ u.graph.hasNode id = true)).toNat +
          (decide (id ∈ w.control.selection ∧ w.graph.hasNode id = true)).toNat := by
    have at_u : u.switches .stop w.control.checksum id (.toggle now .stop false) =
        decide (id ∈ u.control.selection ∧ u.graph.hasNode id = true) := by
      simp only [switches, same, true_and]
    have at_w : w.switches .stop w.control.checksum id (.toggle now .stop false) =
        decide (id ∈ w.control.selection ∧ w.graph.hasNode id = true) := by
      simp only [switches, true_and]
    have none : timesSwitched .stop w.control.checksum id start first = 0 := rfl
    have before := start.timesSwitched_append first (.toggle now .stop false) .stop
      w.control.checksum id
    rw [none, Nat.zero_add, at_u] at before
    have all := start.timesSwitched_append es (.toggle now .stop false) .stop w.control.checksum id
    rw [at_w] at all
    rw [all, ← before]
    rfl
  obtain ⟨asks, _⟩ := toggle_asks_for_odd default (.memory .empty) backend {} es now .stop
  have selected : w.control.selection ≠ [] := by decide
  obtain ⟨ids, r, posts, toggled, _, odd, known⟩ := asks selected
  have apart : ToldApart (start.switchings es) w := by
    intro v hv _
    have only : start.switchings es = [u] := rfl
    rw [only, List.mem_singleton] at hv
    rw [hv]
    exact congrArg Value.compact reported.structureValue.symm
  refine ⟨ids, r, ?_, posts, ?_, ?_, ?_, known apart⟩
  · exact congrArg (fun t => t.1.remote.received) toggled
  · rw [odd, count]
    decide
  · rw [odd, count]
    decide
  · rw [odd, count]
    decide

end Workspace

end Flowgraph
