import Flowgraph.Proofs.Queue.Serial

namespace Flowgraph.Queue

open Json

variable {σ : Type} {answer : σ → Item → σ × Except Failure Value} {plan : ExecutionPlan}
  {clock : Nat → Moment} {q q' : Queue} {s s' : σ}

def alone (answer : σ → Item → σ × Except Failure Value) (s : σ) (i : Item) : σ × Event :=
  ((answer s i).1, { result := (answer s i).2 })

/-- The items of a list go out from last to first, until one fails: those that were answered, in the
order in which they went out, the one that failed, and those that are left. -/
inductive Delivers (answer : σ → Item → σ × Except Failure Value) :
    σ → List Item → σ → List (Item × Value) → Option Item → List Item → Prop where
  | nothing (s : σ) : Delivers answer s [] s [] none []
  | fails {s s' : σ} {i : Item} {e : Failure} (rest : List Item) :
    answer s i = (s', .error e) → Delivers answer s (rest ++ [i]) s' [] (some i) rest
  | answers {s s₁ s' : σ} {i : Item} {v : Value} {rest left : List Item}
      {answered : List (Item × Value)} {failed : Option Item} :
    answer s i = (s₁, .ok v) → Delivers answer s₁ rest s' answered failed left →
      Delivers answer s (rest ++ [i]) s' ((i, v) :: answered) failed left

section Delivers

variable {items left : List Item} {answered : List (Item × Value)} {failed : Option Item}

theorem exists_delivers (answer : σ → Item → σ × Except Failure Value) (s : σ)
    (items : List Item) : ∃ s' answered failed left,
      Delivers answer s items s' answered failed left := by
  induction items using List.reverseRecOn generalizing s with
  | nil => exact ⟨s, [], none, [], .nothing s⟩
  | append_singleton rest i ih =>
    cases result : answer s i with
    | mk s₁ r =>
      cases r with
      | error e => exact ⟨s₁, [], some i, rest, .fails rest result⟩
      | ok v =>
        obtain ⟨s', answered, failed, left, later⟩ := ih s₁
        exact ⟨s', (i, v) :: answered, failed, left, .answers result later⟩

/-- The items that are left come first in the list, and the others follow newest last. -/
theorem Delivers.parted (h : Delivers answer s items s' answered failed left) :
    items = left ++ (answered.map Prod.fst ++ failed.toList).reverse := by
  induction h with
  | nothing => rfl
  | fails => rfl
  | answers _ _ ih => rw [ih, List.map_cons, List.cons_append, List.reverse_cons, List.append_assoc]

end Delivers

section Copies

theorem push_ok {m : Moment} {id : String} (ok : q.push plan m = (q', .ok id)) :
    q'.pending = q.pending ++ [⟨id, .queued, { plan with promptId := some id }⟩] ∧
      q'.processing = q.processing ∧
      q'.readings = q.readings + 1 ∧ q.ids.generate m.now m.fresh = (q'.ids, .ok id) := by
  simp only [push, Item.ofPlan_eq] at ok
  cases generated : q.ids.generate m.now m.fresh with
  | mk ids r =>
    rw [generated] at ok
    cases r with
    | error e => cases ok
    | ok id =>
      cases ok
      exact ⟨rfl, rfl, rfl, rfl⟩

theorem pushCopies_succ_ok {n : Nat} {ids : List String}
    (ok : q.pushCopies plan clock (n + 1) = (q', .ok ids)) :
    ∃ q₁ id rest, q.push plan (clock q.readings) = (q₁, .ok id) ∧
      q₁.pushCopies plan clock n = (q', .ok rest) ∧ ids = id :: rest := by
  unfold pushCopies at ok
  cases pushed : q.push plan (clock q.readings) with
  | mk q₁ r =>
    rw [pushed] at ok
    cases r with
    | error e => cases ok
    | ok id =>
      dsimp only at ok
      cases copied : q₁.pushCopies plan clock n with
      | mk q₂ r =>
        rw [copied] at ok
        cases r with
        | error e => cases ok
        | ok rest =>
          cases ok
          exact ⟨q₁, id, rest, rfl, copied, rfl⟩

theorem pushCopies_ok {n : Nat} {ids : List String}
    (ok : q.pushCopies plan clock n = (q', .ok ids)) :
    ids.length = n ∧ q'.processing = q.processing ∧ q'.pending = q.pending ++
      ids.map fun id => ⟨id, .queued, { plan with promptId := some id }⟩ := by
  induction n generalizing q ids with
  | zero =>
    cases ok
    exact ⟨rfl, rfl, (List.append_nil _).symm⟩
  | succ n ih =>
    obtain ⟨q₁, id, rest, pushed, copied, rfl⟩ := pushCopies_succ_ok ok
    obtain ⟨pending, processing, _⟩ := push_ok pushed
    obtain ⟨length, same, later⟩ := ih copied
    refine ⟨congrArg (· + 1) length, same.trans processing, ?_⟩
    rw [later, pending, List.append_assoc, List.map_cons, List.singleton_append]

theorem queued_pushCopies {n : Nat} {ids : List String}
    (ok : q.pushCopies plan clock n = (q', .ok ids))
    (queued : ∀ i ∈ q.pending, i.status = .queued) : ∀ i ∈ q'.pending, i.status = .queued := by
  intro i hi
  rw [(pushCopies_ok ok).2.2] at hi
  rcases List.mem_append.1 hi with old | new
  · exact queued i old
  · obtain ⟨id, _, rfl⟩ := List.mem_map.1 new
    rfl

end Copies

section Run

variable {items left : List Item} {answered : List (Item × Value)} {failed : Option Item}

def Drain.after (d : Drain) (answered : List (Item × Value)) (failed : Option Item)
    (left : List Item) : Drain where
  queue := { d.queue with pending := left }
  report := { d.report with
    responses := d.report.responses.insertMany (answered.map fun a => (a.1.id, a.2))
    failed := failed.map fun i => { i with status := .error } }
  sent := d.sent ++ (answered.map Prod.fst ++ failed.toList).map (·.plan.toText)
  deferred := d.deferred

theorem pop?_concat {rest : List Item} {i : Item} (pending : q.pending = rest ++ [i]) :
    q.pop? = some (i, { q with pending := rest }) := by
  rw [pop?, pending, List.getLast?_concat, List.dropLast_concat, Option.map_some]

theorem Delivers.run (h : Delivers answer s items s' answered failed left) {most : Nat} {d : Drain}
    (enough : items.length ≤ most) (pending : d.queue.pending = items)
    (going : d.report.failed = none) :
    Drain.run plan clock (alone answer) most s d = (s', d.after answered failed left) := by
  induction h generalizing most d with
  | nothing s =>
    have same : d.after [] none [] = d := by
      obtain ⟨⟨p, _, _, _⟩, ⟨_, f, _⟩, _, _⟩ := d
      obtain rfl : p = [] := pending
      obtain rfl : f = none := going
      simp [Drain.after, SortedMap.insertMany]
    have none : d.queue.pop? = none := by rw [pop?, pending]; rfl
    rw [same]
    cases most with
    | zero => rfl
    | succ most => rw [Drain.run, none]
  | fails rest result =>
    cases most with
    | zero => simp at enough
    | succ most =>
      simp only [Drain.run, pop?_concat pending, alone, result, Drain.send, callsMeanwhile,
        Drain.finish, Report.finish, Item.body_eq, Item.fail_eq, List.append_nil]
      rfl
  | @answers s s₁ s' i v rest left answered failed result later ih =>
    cases most with
    | zero => simp at enough
    | succ most =>
      rw [List.length_append, List.length_singleton] at enough
      simp only [Drain.run, pop?_concat pending, alone, result, Drain.send, callsMeanwhile,
        Drain.finish, Report.finish, Item.body_eq, List.append_nil]
      rw [ih]
      · simp only [Drain.after, List.append_assoc]
        rfl
      · exact Nat.le_of_succ_le_succ enough
      · rfl
      · exact going

/-- A call on a queue that no other call drains. -/
theorem Delivers.enqueueWith {batch : Nat} {ids : List String}
    (h : Delivers answer s q'.pending s' answered failed left) (idle : q.processing = false)
    (copied : q.pushCopies plan clock (copies batch) = (q', .ok ids)) (more : Nat) :
    let report : Report := {
      responses := .ofList (answered.map fun a => (a.1.id, a.2))
      failed := failed.map fun i => { i with status := .error }
      remaining := left.length }
    q.enqueueWith plan batch clock (alone answer) s more =
      (s', {
        queue := { q' with pending := left, processing := false }
        report := report
        sent := (answered.map Prod.fst ++ failed.toList).map (·.plan.toText) },
        .drained report) := by
  intro report
  have free : q'.processing = false := (pushCopies_ok copied).2.1.trans idle
  have ran : Drain.run plan clock (alone answer) (q'.pending.length + more) s
      { queue := { q' with processing := true } } = _ := h.run (Nat.le_add_right ..) rfl rfl
  simp only [Queue.enqueueWith, copied, tryTake, free, Bool.not_false]
  rw [ran]
  rfl

theorem copied_of_drained {batch more : Nat} {dispatch : σ → Item → σ × Event} {d : Drain}
    {report : Report}
    (eq : q.enqueueWith plan batch clock dispatch s more = (s', d, .drained report)) :
    ∃ q₁ ids, q.pushCopies plan clock (copies batch) = (q₁, .ok ids) := by
  unfold Queue.enqueueWith at eq
  cases copied : q.pushCopies plan clock (copies batch) with
  | mk q₁ r =>
    rw [copied] at eq
    cases r with
    | error e => cases eq
    | ok ids => exact ⟨q₁, ids, rfl⟩

end Run

end Flowgraph.Queue
