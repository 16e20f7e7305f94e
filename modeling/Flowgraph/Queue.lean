import Flowgraph.Failure
import Flowgraph.Identifier
import Flowgraph.Plan.Basic

namespace Flowgraph

open Json

namespace Queue

/-- What became of an item. -/
inductive Status where
  | queued
  | error
  | done
deriving DecidableEq, Repr

def Status.name : Status → String
  | .queued => "queued"
  | .error => "error"
  | .done => "done"

/-- A plan that waits for its dispatch or went through it. -/
structure Item where
  id : String
  status : Status
  plan : ExecutionPlan

/-- The copy of a plan that is queued under an identifier. -/
def Item.ofPlan (plan : ExecutionPlan) (id : String) : Item :=
  ⟨id, .queued, { plan with promptId := some id }⟩

def Item.fail (i : Item) : Item := { i with status := .error }

def Item.encode (i : Item) : Value :=
  .object [("id", .string i.id), ("status", .string i.status.name), ("queuedPrompt", i.plan.encode)]

def Item.body (i : Item) : String := i.plan.toText

/-- A reading of the clock with the digits that a new millisecond would start from. -/
structure Moment where
  now : Int
  fresh : List Nat

/-- What one drain of the list came to. -/
structure Report where
  /-- The responses by item. -/
  responses : SortedMap String Value := .empty
  /-- The item whose dispatch failed. -/
  failed : Option Item := none
  /-- How many items were left pending. -/
  remaining : Nat := 0

def Report.isComplete (r : Report) : Bool := r.failed.isNone

/-- Takes the result of a dispatch in; says whether the drain goes on. -/
def Report.finish (r : Report) (i : Item) : Except Failure Value → Report × Bool
  | .ok v => ({ r with responses := r.responses.insert i.id v }, true)
  | .error _ => ({ r with failed := some i.fail }, false)

end Queue

/-- The queue. -/
structure Queue where
  /-- The pending items, oldest first. -/
  pending : List Queue.Item := []
  /-- Whether a call is draining the list. -/
  processing : Bool := false
  ids : Identifier.Generator := {}
  /-- How often the clock was read. -/
  readings : Nat := 0

namespace Queue

/-- Appends a copy of a plan under a fresh identifier. -/
def push (q : Queue) (plan : ExecutionPlan) (m : Moment) : Queue × Except GraphError String :=
  let (ids, id) := q.ids.generate m.now m.fresh
  let q := { q with ids := ids, readings := q.readings + 1 }
  match id with
  | .error e => (q, .error e)
  | .ok id => ({ q with pending := q.pending ++ [.ofPlan plan id] }, .ok id)

/-- Takes the right to drain the list, unless another call has it. -/
def tryTake (q : Queue) : Queue × Bool := ({ q with processing := true }, !q.processing)

def pop? (q : Queue) : Option (Item × Queue) :=
  q.pending.getLast?.map fun i => (i, { q with pending := q.pending.dropLast })

def release (q : Queue) : Queue := { q with processing := false }

/-- Appends so many copies of a plan; answers their identifiers. -/
def pushCopies (q : Queue) (plan : ExecutionPlan) (clock : Nat → Moment) :
    Nat → Queue × Except GraphError (List String)
  | 0 => (q, .ok [])
  | n + 1 =>
    match q.push plan (clock q.readings) with
    | (q, .error e) => (q, .error e)
    | (q, .ok id) =>
      match q.pushCopies plan clock n with
      | (q, .error e) => (q, .error e)
      | (q, .ok ids) => (q, .ok (id :: ids))

/-- How many copies a call with a batch size appends: at least one. -/
def copies (batch : Nat) : Nat := max batch 1

/-- What a call on the queue did. -/
inductive Called where
  /-- Another call drains the list and will take these items too. -/
  | deferred (ids : List String)
  | drained (r : Report)
  | failed (e : GraphError)

/-- What happens while an item is dispatched: calls with these batch sizes come in, and a result
comes back. -/
structure Event where
  calls : List Nat := []
  result : Except Failure Value

/-- The calls that come in while an item is dispatched; all of them are deferred. -/
def callsMeanwhile (q : Queue) (plan : ExecutionPlan) (clock : Nat → Moment) :
    List Nat → Queue × List (List String)
  | [] => (q, [])
  | batch :: rest =>
    let (q, ids) := q.pushCopies plan clock (copies batch)
    let (q, more) := q.callsMeanwhile plan clock rest
    (q, ids.toOption.getD [] :: more)

/-- A drain as it goes on: the queue, the report so far, the bodies sent and the identifiers that
deferred calls got. -/
structure Drain where
  queue : Queue
  report : Report := {}
  sent : List String := []
  deferred : List (List String) := []

namespace Drain

/-- Takes the result of a dispatch in; says whether the drain goes on. -/
def finish (d : Drain) (i : Item) (result : Except Failure Value) : Drain × Bool :=
  let (r, goesOn) := d.report.finish i result
  ({ d with report := r }, goesOn)

/-- Sends an item of the list that was taken off it. -/
def send (d : Drain) (i : Item) (q : Queue) : Drain :=
  { d with queue := q, sent := d.sent ++ [i.body] }

/-- Dispatches items one after another, at most so many. A dispatcher has a state of its own and
says what happens while it has an item. -/
def run {σ : Type} (plan : ExecutionPlan) (clock : Nat → Moment) (dispatch : σ → Item → σ × Event) :
    Nat → σ → Drain → σ × Drain
  | 0, s, d => (s, d)
  | most + 1, s, d =>
    match d.queue.pop? with
    | none => (s, d)
    | some (i, q) =>
      let d := d.send i q
      let (s, e) := dispatch s i
      let (q, ids) := d.queue.callsMeanwhile plan clock e.calls
      let d := { d with queue := q, deferred := d.deferred ++ ids }
      match d.finish i e.result with
      | (d, true) => run plan clock dispatch most s d
      | (d, false) => (s, d)

def close (d : Drain) : Drain :=
  { d with
    queue := d.queue.release
    report := { d.report with remaining := d.queue.pending.length } }

end Drain

/-- A call that queues copies of a plan and, unless another call drains the list, drains it. Calls
that come in meanwhile append at most `more` items. -/
def enqueueWith {σ : Type} (q : Queue) (plan : ExecutionPlan) (batch : Nat) (clock : Nat → Moment)
    (dispatch : σ → Item → σ × Event) (s : σ) (more : Nat) : σ × Drain × Called :=
  match q.pushCopies plan clock (copies batch) with
  | (q, .error e) => (s, { queue := q }, .failed e)
  | (q, .ok ids) =>
    match q.tryTake with
    | (q, false) => (s, { queue := q }, .deferred ids)
    | (q, true) =>
      let (s, d) := Drain.run plan clock dispatch (q.pending.length + more) s { queue := q }
      (s, d.close, .drained d.close.report)

/-- What happens at dispatches, one event for each; after the last one every dispatch has the same
result. -/
structure Script where
  events : List Event
  afterwards : Except Failure Value

namespace Script

/-- The next event, and what follows it. -/
def next (s : Script) (_ : Item) : Script × Event :=
  match s.events with
  | [] => (s, { result := s.afterwards })
  | e :: rest => ({ s with events := rest }, e)

/-- How many items the calls of a script append. -/
def appended (s : Script) : Nat :=
  (s.events.flatMap (·.calls)).foldl (fun n batch => n + copies batch) 0

end Script

/-- A call whose dispatches go as a script has it. -/
def enqueue (q : Queue) (plan : ExecutionPlan) (batch : Nat) (clock : Nat → Moment)
    (script : Script) : Drain × Called :=
  (q.enqueueWith plan batch clock Script.next script script.appended).2

end Queue

end Flowgraph
