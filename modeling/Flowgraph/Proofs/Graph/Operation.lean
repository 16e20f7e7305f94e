import Flowgraph.Graph.Edit
import Flowgraph.Proofs.Realtime.Footprint
import Flowgraph.Snapshot.Import

namespace Flowgraph

open Json

/-- An edit of what a node shows: its title, mode, widgets or colours. -/
inductive NodeEdit where
  | title (title : String)
  | mode (mode : Mode)
  /-- Sets the value of the first widget with a name. -/
  | widget (name : String) (value : Value)
  /-- Puts any widgets in place of the present ones. -/
  | widgets (widgets : List Widget)
  | colors (color bodyColor : Option String)
  | switchColors (colors : Colors)
  | restoreColors (all : Bool)

def NodeEdit.apply (n : Node) : NodeEdit → Node
  | .title t => { n with title := t }
  | .mode m => { n with mode := m }
  | .widget name value => n.setWidget name value
  | .widgets ws => { n with widgets := ws }
  | .colors color bodyColor => { n with color := color, bodyColor := bodyColor }
  | .switchColors c => n.switchColors c
  | .restoreColors all => n.restoreColors all

theorem NodeEdit.keepsSlots (e : NodeEdit) : Node.KeepsSlots fun n => e.apply n := by
  intro n
  cases e with
  | title => exact ⟨rfl, rfl, rfl⟩
  | mode => exact ⟨rfl, rfl, rfl⟩
  | widget name value =>
    simp only [NodeEdit.apply, Node.setWidget]
    split <;> exact ⟨rfl, rfl, rfl⟩
  | widgets => exact ⟨rfl, rfl, rfl⟩
  | colors => exact ⟨rfl, rfl, rfl⟩
  | switchColors => exact ⟨rfl, rfl, rfl⟩
  | restoreColors => exact ⟨rfl, rfl, rfl⟩

theorem Snapshot.load_ok {s : Snapshot} {r : ExtensionRegistry} {i : Import}
    (ok : s.load r = .ok i) :
    Graph.ofSnapshot ((s.prepared r).withPlaceholders r.types) r.types = .ok i.graph := by
  unfold load at ok
  simp only [bind, Except.bind] at ok
  split at ok
  · cases ok
  · next g built =>
    cases ok
    exact built

/-- What may happen to a graph. -/
inductive Operation where
  | addNode (n : Node)
  | removeNode (id : NodeId)
  | connect (origin : NodeId) (originSlot : Nat) (target : NodeId) (targetSlot : Nat)
  | disconnect (target : NodeId) (slot : Nat)
  | clear
  | addGroup (group : Value)
  | configure (s : Snapshot) (types : TypeRegistry)
  | load (s : Snapshot) (r : ExtensionRegistry)
  /-- The text of a frame comes in, whatever the canvas shows and whether the run is held. -/
  | frame (canvas : Canvas) (paused : Bool) (now text : String)
  | edit (id : NodeId) (e : NodeEdit)

namespace Graph

/-- The graph after an operation. One that fails leaves the graph as it is, and after one that runs
out of ids there is none, since the program has stopped. -/
def apply (g : Graph) : Operation → Option Graph
  | .addNode n => (g.addNode n).map (·.1)
  | .removeNode id => some (g.removeNode id).1
  | .connect origin originSlot target targetSlot =>
    (g.connect origin originSlot target targetSlot).map fun
      | .ok (g', _) => g'
      | .error _ => g
  | .disconnect target slot => some (g.disconnectInput target slot).1
  | .clear => some .empty
  | .addGroup group => some (g.addGroup group)
  | .configure s types => some <|
    match ofSnapshot s types with
    | .ok g' => g'
    | .error _ => g
  | .load s r => some <|
    match s.load r with
    | .ok i => i.graph
    | .error _ => g
  | .frame canvas paused now text => some <|
    match Scene.applyText ⟨g, canvas, paused⟩ now text with
    | .ok (s, _) => s.graph
    | .error _ => g
  | .edit id e => some (g.modifyNode id fun n => e.apply n)

def run (g : Graph) (ops : List Operation) : Option Graph := ops.foldlM apply g

variable {g g' : Graph} {op : Operation}

theorem apply_addNode {n : Node} (done : g.apply (.addNode n) = some g') :
    ∃ id, g.addNode n = some (g', id) := by
  obtain ⟨⟨_, id⟩, added, rfl⟩ := Option.map_eq_some_iff.1 done
  exact ⟨id, added⟩

theorem apply_connect {o t : NodeId} {os ts : Nat} (done : g.apply (.connect o os t ts) = some g') :
    (∃ e, g.connect o os t ts = some (.error e) ∧ g' = g) ∨
      ∃ id, g.connect o os t ts = some (.ok (g', id)) := by
  obtain ⟨answer, connected, left⟩ := Option.map_eq_some_iff.1 done
  cases answer with
  | error e => exact .inl ⟨e, connected, left.symm⟩
  | ok made =>
    obtain ⟨_, id⟩ := made
    subst left
    exact .inr ⟨id, connected⟩

/-- What holds of a graph holds after an operation if it holds after each kind of success. -/
theorem apply_cases {P : Graph → Prop} (done : g.apply op = some g') (same : P g)
    (reported : ∀ g id f, Node.Reports f → P g → P (g.modifyNode id f))
    (edited : ∀ id e, op = .edit id e → P (g.modifyNode id fun n => e.apply n))
    (added : ∀ n id, op = .addNode n → g.addNode n = some (g', id) → P g')
    (removed : ∀ id, P (g.removeNode id).1)
    (connected : ∀ o os t ts id, op = .connect o os t ts →
      g.connect o os t ts = some (.ok (g', id)) → P g')
    (disconnected : ∀ t slot, P (g.disconnectInput t slot).1)
    (cleared : op = .clear → P .empty)
    (grouped : ∀ group, P (g.addGroup group))
    (configured : ∀ s types g', op = .configure s types → ofSnapshot s types = .ok g' → P g')
    (loaded : ∀ s r g', op = .load s r →
      ofSnapshot ((s.prepared r).withPlaceholders r.types) r.types = .ok g' → P g') : P g' := by
  cases op with
  | addNode n =>
    obtain ⟨id, ok⟩ := apply_addNode done
    exact added n id rfl ok
  | connect o os t ts =>
    obtain ⟨_, _, rfl⟩ | ⟨id, ok⟩ := apply_connect done
    · exact same
    · exact connected o os t ts id rfl ok
  | removeNode id =>
    cases done
    exact removed id
  | disconnect t slot =>
    cases done
    exact disconnected t slot
  | clear =>
    cases done
    exact cleared rfl
  | addGroup group =>
    cases done
    exact grouped group
  | configure s types =>
    cases done
    split
    · next g' ok => exact configured s types g' rfl ok
    · exact same
  | load s r =>
    cases done
    split
    · next i ok => exact loaded s r _ rfl (Snapshot.load_ok ok)
    · exact same
  | frame canvas paused now text =>
    cases done
    split
    · next s' outcome ok =>
      apply Scene.applyText_invariant (P := P) _ ok same
      intro g id f _ kept
      exact reported g id f (Node.reports_of_reported kept)
    · exact same
  | edit id e =>
    cases done
    exact edited id e rfl

/-- The graphs that come out of the empty one by operations that are allowed where they happen. -/
inductive Reachable (allowed : Graph → Operation → Prop) : Graph → Prop
  | empty : Reachable allowed .empty
  | step {g g' : Graph} {op : Operation} :
    Reachable allowed g → allowed g op → g.apply op = some g' → Reachable allowed g'

/-- An operation puts another graph in the place of the present one. -/
def Replaces : Operation → Prop
  | .clear => True
  | .configure s types => ∃ g, ofSnapshot s types = .ok g
  | .load s r => ∃ i, s.load r = .ok i
  | _ => False

theorem apply_of_replaces (replaces : Replaces op) (done : g.apply op = some g') :
    g' = .empty ∨ ∃ s types, ofSnapshot s types = .ok g' := by
  cases op with
  | clear =>
    cases done
    exact .inl rfl
  | configure s types =>
    obtain ⟨built, ok⟩ := replaces
    rw [apply, ok] at done
    cases done
    exact .inr ⟨s, types, ok⟩
  | load s r =>
    obtain ⟨i, ok⟩ := replaces
    rw [apply, ok] at done
    cases done
    exact .inr ⟨(s.prepared r).withPlaceholders r.types, r.types, Snapshot.load_ok ok⟩
  | _ => exact absurd replaces not_false

theorem apply_cases_of_stays {P : Graph → Prop} (stays : ¬Replaces op)
    (done : g.apply op = some g') (same : P g)
    (reported : ∀ g id f, Node.Reports f → P g → P (g.modifyNode id f))
    (edited : ∀ id e, op = .edit id e → P (g.modifyNode id fun n => e.apply n))
    (added : ∀ n id, op = .addNode n → g.addNode n = some (g', id) → P g')
    (removed : ∀ id, P (g.removeNode id).1)
    (connected : ∀ o os t ts id, op = .connect o os t ts →
      g.connect o os t ts = some (.ok (g', id)) → P g')
    (disconnected : ∀ t slot, P (g.disconnectInput t slot).1)
    (grouped : ∀ group, P (g.addGroup group)) : P g' := by
  refine apply_cases done same reported edited added removed connected disconnected ?cleared grouped
    ?configured ?loaded
  case cleared =>
    rintro rfl
    exact absurd trivial stays
  case configured =>
    rintro s types g' rfl ok
    exact absurd ⟨g', ok⟩ stays
  case loaded =>
    rintro s r g' rfl ok
    have loads : ∃ i, s.load r = .ok i := by
      simp only [Snapshot.load, ok]
      exact ⟨_, rfl⟩
    exact absurd loads stays

/-- The graphs that come out of a graph by operations that are allowed where they happen, none of
which puts another graph in its place. -/
inductive Later (allowed : Graph → Operation → Prop) (g : Graph) : Graph → Prop
  | refl : Later allowed g g
  | step {g' g'' : Graph} {op : Operation} :
    Later allowed g g' → allowed g' op → ¬Replaces op → g'.apply op = some g'' →
      Later allowed g g''

/-- What every allowed step keeps holds of every reachable graph. -/
theorem Reachable.invariant {allowed : Graph → Operation → Prop} {P : Graph → Prop}
    (start : P .empty)
    (keep : ∀ g op g', allowed g op → g.apply op = some g' → P g → P g')
    (h : Reachable allowed g) : P g := by
  induction h with
  | empty => exact start
  | step _ permitted done ih => exact keep _ _ _ permitted done ih

theorem Reachable.of_run {allowed : Graph → Operation → Prop} {ops : List Operation}
    (h : Reachable allowed g) (permitted : ∀ g, ∀ op ∈ ops, allowed g op)
    (ran : g.run ops = some g') : Reachable allowed g' := by
  induction ops generalizing g with
  | nil =>
    cases ran
    exact h
  | cons op ops ih =>
    obtain ⟨next, done, rest⟩ := Option.bind_eq_some_iff.1 ran
    have first := permitted g op List.mem_cons_self
    exact ih (h.step first done) (fun g op hop => permitted g op (List.mem_cons_of_mem _ hop)) rest

theorem Later.of_run {allowed : Graph → Operation → Prop} {ops : List Operation} {g'' : Graph}
    (later : Later allowed g g') (permitted : ∀ g, ∀ op ∈ ops, allowed g op ∧ ¬Replaces op)
    (ran : g'.run ops = some g'') : Later allowed g g'' := by
  induction ops generalizing g' with
  | nil =>
    cases ran
    exact later
  | cons op ops ih =>
    obtain ⟨next, done, rest⟩ := Option.bind_eq_some_iff.1 ran
    obtain ⟨first, stays⟩ := permitted g' op List.mem_cons_self
    apply ih (later.step first stays done)
    · exact fun g op hop => permitted g op (List.mem_cons_of_mem _ hop)
    · exact rest

end Graph

end Flowgraph
