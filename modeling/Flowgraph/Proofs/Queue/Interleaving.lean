import Flowgraph.Queue
import Mathlib.Data.List.Induction

namespace Flowgraph.Queue

open Json

namespace Item

theorem ofPlan_eq (plan : ExecutionPlan) (id : String) :
    ofPlan plan id = ⟨id, .queued, { plan with promptId := some id }⟩ := rfl

theorem fail_eq (i : Item) : i.fail = { i with status := .error } := rfl

theorem body_eq (i : Item) : i.body = i.plan.toText := rfl

end Item

/-- Where a call stands between its steps. -/
inductive Stage where
  | pushing (left : Nat)
  | draining (r : Report)
  | dispatching (r : Report) (i : Item)
  /-- The list was found empty or a dispatch failed. -/
  | closing (r : Report)
  /-- What is left was counted. -/
  | releasing (r : Report)
  | returned (c : Called)

/-- A call on the queue with what it has done so far. -/
structure Call where
  plan : ExecutionPlan
  stage : Stage
  /-- The identifiers of the copies that it appended. -/
  ids : List String := []
  /-- The bodies that it dispatched, with the identifiers of their items. -/
  sent : List (String × String) := []

/-- What the surroundings of a call say at a step: the time, and how the dispatch ended. -/
structure Signal where
  moment : Moment := ⟨0, []⟩
  result : Except Failure Value := .ok .null

namespace Call

def start (plan : ExecutionPlan) (batch : Nat) : Call where
  plan := plan
  stage := .pushing (copies batch)

def advance (c : Call) (q : Queue) (s : Signal) : Queue × Call :=
  match c.stage with
  | .pushing (left + 1) =>
    match q.push c.plan s.moment with
    | (q, .ok id) => (q, { c with stage := .pushing left, ids := c.ids ++ [id] })
    | (q, .error e) => (q, { c with stage := .returned (.failed e) })
  | .pushing 0 =>
    match q.tryTake with
    | (q, true) => (q, { c with stage := .draining {} })
    | (q, false) => (q, { c with stage := .returned (.deferred c.ids) })
  | .draining r =>
    match q.pop? with
    | some (i, q) => (q, { c with stage := .dispatching r i, sent := c.sent ++ [(i.id, i.body)] })
    | none => (q, { c with stage := .closing r })
  | .dispatching r i =>
    match r.finish i s.result with
    | (r, true) => (q, { c with stage := .draining r })
    | (r, false) => (q, { c with stage := .closing r })
  | .closing r => (q, { c with stage := .releasing { r with remaining := q.pending.length } })
  | .releasing r => (q.release, { c with stage := .returned (.drained r) })
  | .returned _ => (q, c)

/-- What a step of a call does to the queue and to the call. -/
inductive Step (s : Signal) : Queue → Call → Queue → Call → Prop
  | push {q q' p left ids sent} (id : String) :
    q'.pending = q.pending ++ [⟨id, .queued, { p with promptId := some id }⟩] →
    q'.processing = q.processing →
    Step s q ⟨p, .pushing (left + 1), ids, sent⟩ q' ⟨p, .pushing left, ids ++ [id], sent⟩
  | fail {q q' p left ids sent e} :
    q'.pending = q.pending → q'.processing = q.processing →
    Step s q ⟨p, .pushing (left + 1), ids, sent⟩ q' ⟨p, .returned (.failed e), ids, sent⟩
  | take {q p ids sent} : q.processing = false →
    Step s q ⟨p, .pushing 0, ids, sent⟩ { q with processing := true } ⟨p, .draining {}, ids, sent⟩
  | refuse {q p ids sent} : q.processing = true →
    Step s q ⟨p, .pushing 0, ids, sent⟩ q ⟨p, .returned (.deferred ids), ids, sent⟩
  | pop {q p ids sent rest} (r : Report) (i : Item) : q.pending = rest ++ [i] →
    Step s q ⟨p, .draining r, ids, sent⟩ { q with pending := rest }
      ⟨p, .dispatching r i, ids, sent ++ [(i.id, i.plan.toText)]⟩
  | empty {q p r ids sent} : q.pending = [] →
    Step s q ⟨p, .draining r, ids, sent⟩ q ⟨p, .closing r, ids, sent⟩
  | answer {q p ids sent v} (r : Report) (i : Item) : s.result = .ok v →
    Step s q ⟨p, .dispatching r i, ids, sent⟩ q
      ⟨p, .draining { r with responses := r.responses.insert i.id v }, ids, sent⟩
  | abort {q p ids sent e} (r : Report) (i : Item) : s.result = .error e →
    Step s q ⟨p, .dispatching r i, ids, sent⟩ q
      ⟨p, .closing { r with failed := some { i with status := .error } }, ids, sent⟩
  | count {q p r ids sent} :
    Step s q ⟨p, .closing r, ids, sent⟩ q
      ⟨p, .releasing { r with remaining := q.pending.length }, ids, sent⟩
  | release {q p r ids sent} :
    Step s q ⟨p, .releasing r, ids, sent⟩ { q with processing := false }
      ⟨p, .returned (.drained r), ids, sent⟩
  | rest {q p o ids sent} :
    Step s q ⟨p, .returned o, ids, sent⟩ q ⟨p, .returned o, ids, sent⟩

theorem step_advance (c : Call) (q : Queue) (s : Signal) :
    Step s q c (c.advance q s).1 (c.advance q s).2 := by
  obtain ⟨p, stage, ids, sent⟩ := c
  cases stage with
  | pushing left =>
    cases left with
    | zero =>
      cases busy : q.processing with
      | false =>
        simp only [advance, tryTake, busy]
        exact .take busy
      | true =>
        have same : { q with processing := true } = q := by rw [← busy]
        simp only [advance, tryTake, busy, same]
        exact .refuse busy
    | succ left =>
      simp only [advance, push, Item.ofPlan_eq]
      cases (q.ids.generate s.moment.now s.moment.fresh).2 with
      | error e => exact .fail rfl rfl
      | ok id => exact .push id rfl rfl
  | draining r =>
    rcases List.eq_nil_or_concat q.pending with none | ⟨rest, i, some⟩
    · simp only [advance, pop?, none]
      exact .empty none
    · have last : q.pending.getLast? = Option.some i := by simp [some]
      have front : q.pending.dropLast = rest := by simp [some]
      simp only [advance, pop?, last, front, Option.map_some, Item.body_eq]
      exact .pop r i (by rw [some, List.concat_eq_append])
  | dispatching r i =>
    cases result : s.result with
    | ok v =>
      simp only [advance, Report.finish, result]
      exact .answer r i result
    | error e =>
      simp only [advance, Report.finish, result, Item.fail_eq]
      exact .abort r i result
  | closing r => exact .count
  | releasing r => exact .release
  | returned o => exact .rest

end Call

/-- A queue and the calls on it, in the order in which they were started. -/
structure World where
  queue : Queue := {}
  calls : List Call := []

/-- What may happen next: a call comes in, or one of the calls takes a step. -/
inductive Move where
  | start (plan : ExecutionPlan) (batch : Nat)
  | advance (k : Nat) (s : Signal)

namespace World

/-- The world after a move. -/
def step (w : World) : Move → World
  | .start plan batch => { w with calls := w.calls ++ [.start plan batch] }
  | .advance k s =>
    match w.calls[k]? with
    | none => w
    | some c =>
      let (q, c) := c.advance w.queue s
      { queue := q, calls := w.calls.set k c }

def run (moves : List Move) : World := moves.foldl step {}

variable {w : World}

theorem run_concat (moves : List Move) (m : Move) : run (moves ++ [m]) = (run moves).step m :=
  List.foldl_append

/-- A move starts a call, or is a step of a call and touches no other one. -/
theorem step_cases {P : World → Prop} (m : Move) (same : P w)
    (started : ∀ plan batch, m = .start plan batch →
      P { w with calls := w.calls ++ [.start plan batch] })
    (advanced : ∀ s before c after q c', m = .advance before.length s →
      w.calls = before ++ c :: after → Call.Step s w.queue c q c' → P ⟨q, before ++ c' :: after⟩) :
    P (w.step m) := by
  cases m with
  | start plan batch => exact started plan batch rfl
  | advance k s =>
    simp only [step]
    cases at_ : w.calls[k]? with
    | none => exact same
    | some c =>
      obtain ⟨hk, rfl⟩ := List.getElem?_eq_some_iff.1 at_
      have front : (w.calls.take k).length = k := by
        rw [List.length_take]
        omega
      have split : w.calls = w.calls.take k ++ w.calls[k] :: w.calls.drop (k + 1) := by
        rw [List.getElem_cons_drop, List.take_append_drop]
      have set (c' : Call) : w.calls.set k c' = w.calls.take k ++ c' :: w.calls.drop (k + 1) :=
        List.set_eq_take_append_cons_drop ▸ if_pos hk
      simp only [set]
      exact advanced s _ _ _ _ _ (by rw [front]) split (w.calls[k].step_advance w.queue s)

theorem run_invariant {P : World → Prop} (start : P {}) (keep : ∀ w m, P w → P (w.step m))
    (moves : List Move) : P (run moves) := by
  induction moves using List.reverseRecOn with
  | nil => exact start
  | append_singleton moves m ih =>
    rw [run_concat]
    exact keep _ m ih

end World

end Flowgraph.Queue
