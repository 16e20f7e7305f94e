import Flowgraph.Proofs.Identifier.Order
import Flowgraph.Proofs.Queue.Dispatch

namespace Flowgraph

namespace Identifier.Generator

variable {g : Generator} {d : Draw} {r : Generator × Except GraphError String}

/-- An identifier of a time and a suffix that a generator has come to or gone past. -/
def Passed (g : Generator) (id : String) : Prop :=
  ∃ now s, InTime now ∧ IsSuffix s ∧ id = text now s ∧
    ∃ last, g.last = some last ∧ (now < last ∨ now = last ∧ value s ≤ value g.suffix)

/-- A generator that is asked for no earlier time goes past all that it has given out. -/
theorem Drawn.passes (h : Drawn g d r) (later : ∀ t, g.last = some t → t ≤ d.now) {id : String}
    (ok : r.2 = .ok id) : r.1.last = some d.now ∧ r.1.Passed id ∧
      ∀ k, g.Passed k → r.1.Passed k ∧ bytes k < bytes id := by
  cases h with
  | rejected => cases ok
  | renewed inTime other =>
    cases ok
    refine ⟨rfl, ⟨d.now, d.fresh, inTime, d.proper, rfl, d.now, rfl, .inr ⟨rfl, Nat.le_refl _⟩⟩, ?_⟩
    rintro k ⟨now, s, inTime', proper, rfl, last, known, before⟩
    have le := later last known
    have ne : last ≠ d.now := by
      rintro rfl
      exact other known
    have earlier : now < d.now := by omega
    refine ⟨⟨now, s, inTime', proper, rfl, d.now, rfl, .inl earlier⟩, ?_⟩
    exact bytes_text_lt inTime' inTime proper d.proper (.inl earlier)
  | counted t inTime same proper counts =>
    cases ok
    refine ⟨rfl, ⟨d.now, t, inTime, proper, rfl, d.now, rfl, .inr ⟨rfl, Nat.le_refl _⟩⟩, ?_⟩
    rintro k ⟨now, s, inTime', proper', rfl, last, known, before⟩
    cases known.symm.trans same
    have lower : now < d.now ∨ now = d.now ∧ value s < value t := by
      rw [counts]
      exact before.imp_right fun here => ⟨here.1, Nat.lt_succ_of_le here.2⟩
    refine ⟨⟨now, s, inTime', proper', rfl, d.now, rfl, ?_⟩, ?_⟩
    · exact lower.imp_right fun here => ⟨here.1, Nat.le_of_lt here.2⟩
    · exact bytes_text_lt inTime' inTime proper' proper lower
  | exhausted => cases ok

end Identifier.Generator

namespace Queue

open Json Identifier

variable {σ : Type} {answer : σ → Item → σ × Except Failure Value} {plan : ExecutionPlan}
  {clock : Nat → Moment} {q q' : Queue}

/-- A clock that does not go back, with digits that a suffix may start from. -/
structure Steady (clock : Nat → Moment) : Prop where
  onward : ∀ m n, m ≤ n → (clock m).now ≤ (clock n).now
  proper : ∀ n, IsSuffix (clock n).fresh

section Identifiers

variable {used : List String}

/-- The generator of a queue is past all identifiers so far, and the clock is not behind it. -/
structure Stamped (clock : Nat → Moment) (q : Queue) (used : List String) : Prop where
  suffix : IsSuffix q.ids.suffix
  reached : ∀ t, q.ids.last = some t → ∀ n, q.readings ≤ n → t ≤ (clock n).now
  passed : ∀ k ∈ used, q.ids.Passed k

theorem Stamped.push (stamped : Stamped clock q used) (steady : Steady clock) {id : String}
    (ok : q.push plan (clock q.readings) = (q', .ok id)) :
    Stamped clock q' (id :: used) ∧ ∀ k ∈ used, bytes k < bytes id := by
  obtain ⟨_, _, readings, generated⟩ := push_ok ok
  have drawn := Generator.drawn_draw stamped.suffix
    ⟨(clock q.readings).now, (clock q.readings).fresh, steady.proper _⟩
  rw [Generator.draw, generated] at drawn
  obtain ⟨last, new, old⟩ := drawn.passes (fun t known => stamped.reached t known _ (Nat.le_refl _))
    rfl
  constructor
  · constructor
    case suffix => exact drawn.isSuffix stamped.suffix
    case reached =>
      intro t known n later
      cases last.symm.trans known
      rw [readings] at later
      exact steady.onward _ _ (Nat.le_of_succ_le later)
    case passed =>
      intro k hk
      rcases List.mem_cons.1 hk with rfl | earlier
      · exact new
      · exact (old k (stamped.passed k earlier)).1
  · intro k hk
    exact (old k (stamped.passed k hk)).2

theorem Stamped.pushCopies (stamped : Stamped clock q used) (steady : Steady clock) {n : Nat}
    {ids : List String} (ok : q.pushCopies plan clock n = (q', .ok ids)) :
    Stamped clock q' (used ++ ids) ∧ ids.Pairwise (bytes · < bytes ·) ∧
      ∀ k ∈ used, ∀ k' ∈ ids, bytes k < bytes k' := by
  induction n generalizing q used ids with
  | zero =>
    cases ok
    rw [List.append_nil]
    exact ⟨stamped, .nil, fun _ _ _ hk' => nomatch hk'⟩
  | succ n ih =>
    obtain ⟨q₁, id, rest, pushed, copied, rfl⟩ := pushCopies_succ_ok ok
    obtain ⟨stamped₁, above⟩ := stamped.push steady pushed
    obtain ⟨stamped', ascending, later⟩ := ih stamped₁ copied
    refine ⟨?_, ?_, ?_⟩
    · refine ⟨stamped'.suffix, stamped'.reached, fun k hk => stamped'.passed k ?_⟩
      exact List.perm_middle.mem_iff.1 hk
    · exact List.pairwise_cons.2 ⟨later id List.mem_cons_self, ascending⟩
    · intro k hk k' hk'
      rcases List.mem_cons.1 hk' with rfl | hk'
      · exact above k hk
      · exact later k (List.mem_cons_of_mem _ hk) k' hk'

end Identifiers

section Loops

variable {items left : List Item} {answered : List (Item × Value)} {failed : Option Item}

def noting (answer : σ → Item → σ × Except Failure Value) (s : σ × List Item) (i : Item) :
    (σ × List Item) × Except Failure Value :=
  (((answer s.1 i).1, s.2 ++ [i]), (answer s.1 i).2)

theorem Delivers.noted {s s' : σ × List Item}
    (h : Delivers (noting answer) s items s' answered failed left) :
    s'.2 = s.2 ++ (answered.map Prod.fst ++ failed.toList) := by
  induction h with
  | nothing s => rw [List.map_nil, Option.toList_none, List.append_nil, List.append_nil]
  | fails rest result => exact (congrArg (·.1.2) result).symm
  | @answers s s₁ s' i v rest left answered failed result later ih =>
    have noted : s.2 ++ [i] = s₁.2 := congrArg (·.1.2) result
    rw [ih, ← noted, List.append_assoc]
    rfl

/-- What calls on a new queue come to, one after another, of which none fails: the queue, the state
of the dispatcher, and what each of the loops has sent, in order. -/
inductive Served (clock : Nat → Moment) (answer : σ → Item → σ × Except Failure Value) :
    Queue → σ → List (List Item) → Prop where
  | new (s : σ) : Served clock answer {} s []
  | call {q : Queue} {s s' : σ} {loops : List (List Item)} {plan : ExecutionPlan} {batch more : Nat}
      {sent : List Item} {d : Drain} {report : Report} :
    Served clock answer q s loops →
      q.enqueueWith plan batch clock (alone (noting answer)) (s, []) more =
        ((s', sent), d, .drained report) →
      Served clock answer d.queue s' (loops ++ [sent])

def Ascending (items : List Item) : Prop := items.Pairwise fun i j => bytes i.id < bytes j.id

/-- What is kept by calls. -/
structure Orderly (clock : Nat → Moment) (q : Queue) (loops : List (List Item)) : Prop where
  idle : q.processing = false
  stamped : Stamped clock q ((loops.flatten ++ q.pending).map (·.id))
  distinct : ((loops.flatten ++ q.pending).map (·.id)).Nodup
  ascending : Ascending q.pending
  descending : ∀ sent ∈ loops, sent.Pairwise fun i j => bytes j.id < bytes i.id
  queued : ∀ i ∈ q.pending, i.status = .queued

variable {loops : List (List Item)}

theorem Orderly.new : Orderly clock {} [] where
  idle := rfl
  stamped := ⟨Generator.isSuffix_start, nofun, fun _ hk => nomatch hk⟩
  distinct := .nil
  ascending := .nil
  descending := fun _ h => nomatch h
  queued := fun _ hi => nomatch hi

theorem Orderly.copied (o : Orderly clock q loops) (steady : Steady clock) {n : Nat}
    {ids : List String} (ok : q.pushCopies plan clock n = (q', .ok ids)) :
    Orderly clock q' loops := by
  obtain ⟨stamped, fresh, above⟩ := o.stamped.pushCopies steady ok
  obtain ⟨_, processing, pending⟩ := pushCopies_ok ok
  have named : (ids.map fun id => (⟨id, .queued, { plan with promptId := some id }⟩ : Item)).map
      (·.id) = ids := by
    rw [List.map_map]
    exact List.map_id ids
  have names : (loops.flatten ++ q'.pending).map (·.id) =
      (loops.flatten ++ q.pending).map (·.id) ++ ids := by
    rw [pending, ← List.append_assoc, List.map_append, named]
  constructor
  case idle => exact processing.trans o.idle
  case stamped => rwa [names]
  case distinct =>
    rw [names, List.nodup_append]
    refine ⟨o.distinct, fresh.imp fun lt same => ?_, fun k hk k' hk' same => ?_⟩
    · exact List.lt_irrefl _ (same ▸ lt)
    · exact List.lt_irrefl _ (same ▸ above k hk k' hk')
  case ascending =>
    rw [pending, Ascending, List.pairwise_append]
    refine ⟨o.ascending, ?_, ?_⟩
    · rw [← named, List.pairwise_map] at fresh
      exact fresh
    · intro i hi j hj
      apply above
      · exact List.mem_map_of_mem (List.mem_append_right _ hi)
      · rw [← named]
        exact List.mem_map_of_mem hj
  case descending => exact o.descending
  case queued => exact queued_pushCopies ok o.queued

theorem Orderly.delivered {sent : List Item} (o : Orderly clock q loops)
    (parted : q.pending = left ++ sent.reverse) :
    Orderly clock { q with pending := left, processing := false } (loops ++ [sent]) := by
  have same : ((loops ++ [sent]).flatten ++ left).Perm (loops.flatten ++ q.pending) := by
    rw [List.flatten_append, List.flatten_singleton, List.append_assoc, parted]
    apply List.Perm.append_left
    exact List.perm_append_comm.trans ((List.reverse_perm sent).symm.append_left left)
  have ascending := o.ascending
  rw [parted, Ascending, List.pairwise_append] at ascending
  obtain ⟨below, going, _⟩ := ascending
  constructor
  case idle => rfl
  case stamped =>
    refine ⟨o.stamped.suffix, o.stamped.reached, fun k hk => o.stamped.passed k ?_⟩
    exact (same.map _).mem_iff.1 hk
  case distinct => exact (same.map _).nodup_iff.2 o.distinct
  case ascending => exact below
  case descending =>
    intro sent' h
    rcases List.mem_append.1 h with before | now
    · exact o.descending sent' before
    · rw [List.mem_singleton.1 now]
      exact List.pairwise_reverse.1 going
  case queued =>
    intro i hi
    apply o.queued i
    rw [parted]
    exact List.mem_append_left _ hi

theorem Served.orderly {s : σ} (h : Served clock answer q s loops) (steady : Steady clock) :
    Orderly clock q loops := by
  induction h with
  | new s => exact .new
  | @call q s s' loops plan batch more sent d report before eq ih =>
    obtain ⟨q₁, ids, copied⟩ := copied_of_drained eq
    obtain ⟨s₁, answered, failed, left, delivers⟩ :=
      exists_delivers (noting answer) (s, []) q₁.pending
    have same := delivers.enqueueWith ih.idle copied more
    rw [eq] at same
    cases same
    apply (ih.copied steady copied).delivered
    have noted : sent = [] ++ (answered.map Prod.fst ++ failed.toList) := delivers.noted
    rw [noted, List.nil_append]
    exact delivers.parted

/-- A call that gets its identifiers is one that does not fail. -/
theorem Served.next {s : σ} (h : Served clock answer q s loops) (steady : Steady clock)
    {batch : Nat}
    (numbered : (q.pushCopies plan clock (copies batch)).2.toOption.isSome = true) (more : Nat) :
    let c := q.enqueueWith plan batch clock (alone (noting answer)) (s, []) more
    Served clock answer c.2.1.queue c.1.1 (loops ++ [c.1.2]) := by
  intro c
  cases copied : q.pushCopies plan clock (copies batch) with
  | mk q' r =>
    rw [copied] at numbered
    cases r with
    | error e => cases numbered
    | ok ids =>
      obtain ⟨s', answered, failed, left, delivers⟩ :=
        exists_delivers (noting answer) (s, []) q'.pending
      have eq := delivers.enqueueWith (h.orderly steady).idle copied more
      have same : c = _ := eq
      rw [same]
      exact h.call eq

end Loops

/-- A call on an idle queue that gets its identifiers sends the pending items, with the new copies
behind them, from last to first up to the first failure: it reports the responses by identifier, the
item that failed and how many are left, which stay pending in their order. Under a clock that does
not go back, calls on a new queue keep the pending items in the order of their identifiers, so that
every loop sends them in descending order, and no item is sent twice. -/
theorem newest_first (answer : σ → Item → σ × Except Failure Value) (clock : Nat → Moment) :
    (∀ (q q' : Queue) (plan : ExecutionPlan) (batch : Nat) (s : σ) (more : Nat)
      (ids : List String), q.processing = false →
      q.pushCopies plan clock (copies batch) = (q', .ok ids) →
      ids.length = max batch 1 ∧ ∃ s' answered failed left,
        let items := q.pending ++
          ids.map fun id => ⟨id, .queued, { plan with promptId := some id }⟩
        let sent := answered.map Prod.fst ++ failed.toList
        let report : Report := {
          responses := .ofList (answered.map fun a => (a.1.id, a.2))
          failed := failed.map fun i => { i with status := .error }
          remaining := left.length }
        Delivers answer s items s' answered failed left ∧ items = left ++ sent.reverse ∧
        ((∀ i ∈ q.pending, i.status = .queued) → ∀ i ∈ left, i.status = .queued) ∧
        q.enqueueWith plan batch clock (alone answer) s more = (s', {
          queue := { q' with pending := left, processing := false }
          report := report
          sent := sent.map (·.plan.toText) }, .drained report)) ∧
    (Steady clock → ∀ q s loops, Served clock answer q s loops →
      Ascending q.pending ∧
      (∀ plan n q' ids, q.pushCopies plan clock n = (q', .ok ids) → Ascending q'.pending) ∧
      (∀ sent ∈ loops, sent.Pairwise fun i j => bytes j.id < bytes i.id) ∧
      (loops.flatten.map (·.id)).Nodup ∧
      ∀ i ∈ q.pending, i.status = .queued ∧ i.id ∉ loops.flatten.map (·.id)) := by
  constructor
  · intro q q' plan batch s more ids idle copied
    obtain ⟨length, _, pending⟩ := pushCopies_ok copied
    obtain ⟨s', answered, failed, left, delivers⟩ := exists_delivers answer s q'.pending
    refine ⟨length, s', answered, failed, left, ?_, ?_, ?_, ?_⟩
    · rwa [← pending]
    · rw [← pending]
      exact delivers.parted
    · intro queued i hi
      apply queued_pushCopies copied queued
      rw [delivers.parted]
      exact List.mem_append_left _ hi
    · exact delivers.enqueueWith idle copied more
  · intro steady q s loops served
    have o := served.orderly steady
    have distinct := o.distinct
    rw [List.map_append, List.nodup_append] at distinct
    obtain ⟨once, _, apart⟩ := distinct
    refine ⟨o.ascending, ?_, o.descending, once, fun i hi => ⟨o.queued i hi, fun sent => ?_⟩⟩
    · intro plan n q' ids copied
      exact (o.copied steady copied).ascending
    · exact apart i.id sent i.id (List.mem_map_of_mem hi) rfl

/-- The second of three copies fails; the third goes out behind the copy of the next call. -/
theorem newest_first_after_failure :
    let plan : ExecutionPlan := { prompt := .empty, workflow := {}, checksum := "c" }
    let clock (_ : Nat) : Moment := ⟨1, List.replicate 12 0⟩
    let answer (n : Nat) (_ : Item) : Nat × Except Failure Value :=
      (n + 1, if n = 1 then .error (.socket "down") else .ok .null)
    let first := Queue.enqueueWith {} plan 3 clock (alone (noting answer)) (0, []) 0
    let second := first.2.1.queue.enqueueWith plan 1 clock (alone (noting answer)) (first.1.1, []) 0
    let loops := [first.1.2, second.1.2]
    Steady clock ∧ Served clock answer second.2.1.queue second.1.1 loops ∧
      loops.map List.length = [2, 2] ∧ (loops.flatten.map (·.id)).Nodup := by
  intro plan clock answer first second loops
  have steady : Steady clock := ⟨fun _ _ _ => Int.le_refl _, fun _ => ⟨rfl, by decide⟩⟩
  have served₁ : Served clock answer first.2.1.queue first.1.1 [first.1.2] :=
    (Served.new 0).next steady (by decide +kernel) 0
  have served₂ : Served clock answer second.2.1.queue second.1.1 loops :=
    served₁.next steady (by decide +kernel) 0
  obtain ⟨_, _, _, once, _⟩ := (newest_first answer clock).2 steady _ _ _ served₂
  exact ⟨steady, served₂, by decide +kernel, once⟩

end Queue

end Flowgraph
