import Flowgraph.Proofs.Queue.Interleaving

namespace Flowgraph.Queue

open Json

variable {plan : ExecutionPlan} {clock : Nat → Moment} {q q' : Queue}

theorem pop?_some {i : Item} (popped : q.pop? = some (i, q')) :
    q.pending = q'.pending ++ [i] ∧ q'.processing = q.processing := by
  obtain ⟨j, last, eq⟩ := Option.map_eq_some_iff.1 popped
  cases eq
  obtain ⟨rest, pending⟩ := List.getLast?_eq_some_iff.1 last
  refine ⟨?_, rfl⟩
  rw [pending, List.dropLast_concat]

theorem pop?_none (popped : q.pop? = none) : q.pending = [] := by
  simpa [pop?] using popped

def Leads (w w' : World) : Prop := ∃ moves : List Move, moves.foldl World.step w = w'

def Stage.appended : Except GraphError (List String) → Stage
  | .ok _ => .pushing 0
  | .error e => .returned (.failed e)

namespace Leads

theorem refl (w : World) : Leads w w := ⟨[], rfl⟩

theorem trans {w w' w'' : World} (h : Leads w w') (h' : Leads w' w'') : Leads w w'' := by
  obtain ⟨moves, rfl⟩ := h
  obtain ⟨moves', rfl⟩ := h'
  exact ⟨moves ++ moves', List.foldl_append⟩

theorem start (q : Queue) (calls : List Call) (plan : ExecutionPlan) (batch : Nat) :
    Leads ⟨q, calls⟩ ⟨q, calls ++ [.start plan batch]⟩ :=
  ⟨[.start plan batch], rfl⟩

theorem advance (q : Queue) (before : List Call) (c : Call) (after : List Call) (s : Signal) :
    Leads ⟨q, before ++ c :: after⟩ ⟨(c.advance q s).1, before ++ (c.advance q s).2 :: after⟩ :=
  ⟨[.advance before.length s], by simp [World.step]⟩

theorem pushCopies (before after : List Call) (ids : List String) (sent : List (String × String))
    {n : Nat} {r : Except GraphError (List String)} (eq : q.pushCopies plan clock n = (q', r)) :
    q'.processing = q.processing ∧ ∃ new, (∀ l, r = .ok l → l = new) ∧
      Leads ⟨q, before ++ ⟨plan, .pushing n, ids, sent⟩ :: after⟩
        ⟨q', before ++ ⟨plan, .appended r, ids ++ new, sent⟩ :: after⟩ := by
  induction n generalizing q q' ids r with
  | zero =>
    cases eq
    refine ⟨rfl, [], fun l ok => (by cases ok; rfl), ?_⟩
    rw [List.append_nil]
    exact refl _
  | succ n ih =>
    have first := advance q before ⟨plan, .pushing (n + 1), ids, sent⟩ after
      { moment := clock q.readings }
    have flag : (q.push plan (clock q.readings)).1.processing = q.processing := by
      unfold Queue.push
      split
      split <;> rfl
    simp only [Call.advance] at first
    simp only [Queue.pushCopies] at eq
    cases pushed : q.push plan (clock q.readings) with
    | mk q₁ r₁ =>
      rw [pushed] at eq first flag
      cases r₁ with
      | error e =>
        cases eq
        refine ⟨flag, [], fun l ok => (by cases ok), ?_⟩
        rw [List.append_nil]
        exact first
      | ok id =>
        cases rest : q₁.pushCopies plan clock n with
        | mk q₂ r₂ =>
          obtain ⟨same, new, all, leads⟩ := ih (ids ++ [id]) rest
          simp only [rest] at eq
          rw [List.append_assoc, List.singleton_append] at leads
          cases r₂ with
          | error e =>
            cases eq
            exact ⟨same.trans flag, id :: new, fun l ok => (by cases ok), first.trans leads⟩
          | ok ids =>
            cases eq
            refine ⟨same.trans flag, id :: new, fun l ok => ?_, first.trans leads⟩
            cases ok
            rw [all ids rfl]

theorem callsMeanwhile (plan : ExecutionPlan) (clock : Nat → Moment) (busy : q.processing = true)
    (calls : List Call) (batches : List Nat) :
    (q.callsMeanwhile plan clock batches).1.processing = true ∧
      ∃ refused, Leads ⟨q, calls⟩
        ⟨(q.callsMeanwhile plan clock batches).1, calls ++ refused⟩ := by
  induction batches generalizing q calls with
  | nil =>
    refine ⟨busy, [], ?_⟩
    rw [List.append_nil]
    exact refl _
  | cons batch rest ih =>
    cases copied : q.pushCopies plan clock (copies batch) with
    | mk q₁ r =>
      obtain ⟨flag, new, _, appended⟩ := pushCopies calls [] [] [] copied
      have came := (start q calls plan batch).trans appended
      rw [busy] at flag
      have ⟨c, left⟩ : ∃ c, Leads ⟨q, calls⟩ ⟨q₁, calls ++ [c]⟩ := by
        cases r with
        | error e => exact ⟨_, came⟩
        | ok ids =>
          have last := advance q₁ calls ⟨plan, .pushing 0, new, []⟩ [] {}
          have same : { q₁ with processing := true } = q₁ := by rw [← flag]
          simp only [Call.advance, tryTake, flag, Bool.not_true, same] at last
          exact ⟨_, came.trans last⟩
      obtain ⟨flag', refused, others⟩ := ih flag (calls ++ [c])
      simp only [Queue.callsMeanwhile, copied]
      refine ⟨flag', c :: refused, ?_⟩
      rw [List.append_assoc] at others
      exact left.trans others

theorem run {σ : Type} {dispatch : σ → Item → σ × Event} {most : Nat} {s s' : σ} {d d' : Drain}
    (before after : List Call) (ids : List String) (sent : List (String × String))
    (busy : d.queue.processing = true) (going : d.report.failed = none)
    (eq : Drain.run plan clock dispatch most s d = (s', d'))
    (atEnd : d'.queue.pending = [] ∨ d'.report.failed.isSome = true) :
    ∃ more refused, d'.sent = d.sent ++ more.map (·.2) ∧
      Leads ⟨d.queue, before ++ ⟨plan, .draining d.report, ids, sent⟩ :: after⟩
        ⟨d'.queue, before ++ ⟨plan, .closing d'.report, ids, sent ++ more⟩ ::
          (after ++ refused)⟩ := by
  induction most generalizing s d sent after with
  | zero =>
    -- The looks at the list are used up, and it is found empty: no dispatch has failed yet.
    cases eq
    have none : d'.queue.pop? = none := by
      rcases atEnd with none | failed
      · simp [pop?, none]
      · rw [going] at failed
        cases failed
    have look := advance d'.queue before ⟨plan, .draining d'.report, ids, sent⟩ after {}
    simp only [Call.advance, none] at look
    exact ⟨[], [], by simp, by simpa using look⟩
  | succ most ih =>
    have look := advance d.queue before ⟨plan, .draining d.report, ids, sent⟩ after {}
    simp only [Drain.run] at eq
    cases popped : d.queue.pop? with
    | none =>
      rw [popped] at eq
      cases eq
      simp only [Call.advance, popped] at look
      exact ⟨[], [], by simp, by simpa using look⟩
    | some p =>
      obtain ⟨i, q⟩ := p
      simp only [Call.advance, popped] at look
      -- While the item is in flight others come in, append and are refused. Then it is answered.
      have flag : q.processing = true := (pop?_some popped).2.trans busy
      obtain ⟨flag, refused, came⟩ := callsMeanwhile plan clock flag
        (before ++ ⟨plan, .dispatching d.report i, ids, sent ++ [(i.id, i.body)]⟩ :: after)
        (dispatch s i).2.calls
      rw [List.append_assoc, List.cons_append] at came
      have ended := advance (q.callsMeanwhile plan clock (dispatch s i).2.calls).1 before
        ⟨plan, .dispatching d.report i, ids, sent ++ [(i.id, i.body)]⟩ (after ++ refused)
        { result := (dispatch s i).2.result }
      simp only [popped, Drain.send, Drain.finish] at eq
      cases result : (dispatch s i).2.result with
      | error e =>
        simp only [result, Call.advance, Report.finish] at eq ended
        cases eq
        refine ⟨[(i.id, i.body)], refused, rfl, ?_⟩
        exact look.trans (came.trans ended)
      | ok v =>
        simp only [result, Call.advance, Report.finish] at eq ended
        obtain ⟨more, later, bodies, leads⟩ :=
          ih (after ++ refused) (sent ++ [(i.id, i.body)]) (by exact flag) (by exact going) eq
        refine ⟨(i.id, i.body) :: more, refused ++ later, ?_, ?_⟩
        · rw [bodies]
          simp
        · simp only [List.append_assoc, List.singleton_append] at leads
          simpa using look.trans (came.trans (ended.trans leads))

/-- A call is an interleaving, unless its drain stops before it has come to its end. -/
theorem enqueueWith {σ : Type} {dispatch : σ → Item → σ × Event} {batch more : Nat} {s s' : σ}
    {d : Drain} {called : Called} (calls : List Call)
    (eq : q.enqueueWith plan batch clock dispatch s more = (s', d, called))
    (atEnd : ∀ r, called = .drained r → r.remaining = 0 ∨ r.failed.isSome = true) :
    ∃ ids sent refused, d.sent = sent.map (·.2) ∧
      Leads ⟨q, calls⟩ ⟨d.queue, calls ++ ⟨plan, .returned called, ids, sent⟩ :: refused⟩ := by
  cases copied : q.pushCopies plan clock (copies batch) with
  | mk q₁ r =>
    obtain ⟨_, new, all, appended⟩ := pushCopies calls [] [] [] copied
    have came := (start q calls plan batch).trans appended
    simp only [Queue.enqueueWith, copied] at eq
    cases r with
    | error e =>
      cases eq
      exact ⟨new, [], [], rfl, came⟩
    | ok ids =>
      have next := advance q₁ calls ⟨plan, .pushing 0, new, []⟩ [] {}
      cases busy : q₁.processing with
      | true =>
        simp only [tryTake, busy, Bool.not_true, Call.advance] at eq next
        cases eq
        cases all ids rfl
        exact ⟨_, [], [], rfl, came.trans next⟩
      | false =>
        simp only [tryTake, busy, Bool.not_false, Call.advance] at eq next
        cases ran : Drain.run plan clock dispatch (q₁.pending.length + more) s
            { queue := { q₁ with processing := true } } with
        | mk s₂ d₂ =>
          rw [ran] at eq
          cases eq
          have atEnd : d₂.queue.pending = [] ∨ d₂.report.failed.isSome = true := by
            rcases atEnd _ rfl with none | failed
            · exact .inl (List.length_eq_zero_iff.1 none)
            · exact .inr failed
          obtain ⟨sent, refused, bodies, drained⟩ := run calls [] new [] rfl rfl ran atEnd
          have counted := advance d₂.queue calls ⟨plan, .closing d₂.report, new, sent⟩ refused {}
          have released := advance d₂.queue calls ⟨plan, .releasing d₂.close.report, new, sent⟩
            refused {}
          exact ⟨new, sent, refused, bodies,
            came.trans (next.trans (drained.trans (counted.trans released)))⟩

end Leads

section Scripts

theorem length_push_le (q : Queue) (plan : ExecutionPlan) (m : Moment) :
    (q.push plan m).1.pending.length ≤ q.pending.length + 1 := by
  unfold push
  split
  split
  · exact Nat.le_succ _
  · simp

theorem length_pushCopies_le (plan : ExecutionPlan) (clock : Nat → Moment) (q : Queue) (n : Nat) :
    (q.pushCopies plan clock n).1.pending.length ≤ q.pending.length + n := by
  induction n generalizing q with
  | zero => exact Nat.le_refl _
  | succ n ih =>
    have first := length_push_le q plan (clock q.readings)
    simp only [pushCopies]
    split
    · next q₁ e pushed =>
      rw [pushed] at first
      simp only at first ⊢
      omega
    · next q₁ id pushed =>
      rw [pushed] at first
      have rest := ih q₁
      split <;> next copied =>
        rw [copied] at rest
        simp only at first rest ⊢
        omega

theorem foldl_copies (batches : List Nat) (n : Nat) :
    batches.foldl (fun n batch => n + copies batch) n =
      n + batches.foldl (fun n batch => n + copies batch) 0 := by
  induction batches generalizing n with
  | nil => rfl
  | cons batch batches ih =>
    rw [List.foldl_cons, ih, List.foldl_cons, ih (0 + copies batch)]
    omega

theorem length_callsMeanwhile_le (plan : ExecutionPlan) (clock : Nat → Moment) (q : Queue)
    (batches : List Nat) :
    (q.callsMeanwhile plan clock batches).1.pending.length ≤
      batches.foldl (fun n batch => n + copies batch) q.pending.length := by
  induction batches generalizing q with
  | nil => exact Nat.le_refl _
  | cons batch rest ih =>
    have first := length_pushCopies_le plan clock q (copies batch)
    have later := ih (q.pushCopies plan clock (copies batch)).1
    rw [foldl_copies] at later
    rw [List.foldl_cons, foldl_copies]
    simp only [callsMeanwhile]
    omega

theorem Script.appended_cons (e : Event) (rest : List Event) (afterwards : Except Failure Value) :
    Script.appended ⟨e :: rest, afterwards⟩ =
      e.calls.foldl (fun n batch => n + copies batch) 0 + Script.appended ⟨rest, afterwards⟩ := by
  simp only [Script.appended, List.flatMap_cons, List.foldl_append]
  exact foldl_copies ..

/-- A script leaves a drain enough looks at the list to come to its end. -/
theorem Script.run_over {most : Nat} {s s' : Script} {d d' : Drain}
    (enough : d.queue.pending.length + s.appended ≤ most)
    (eq : Drain.run plan clock Script.next most s d = (s', d')) :
    d'.queue.pending = [] ∨ d'.report.failed.isSome = true := by
  induction most generalizing s d with
  | zero =>
    cases eq
    exact .inl (List.length_eq_zero_iff.1 (by omega))
  | succ most ih =>
    simp only [Drain.run] at eq
    cases popped : d.queue.pop? with
    | none =>
      rw [popped] at eq
      cases eq
      exact .inl (pop?_none popped)
    | some p =>
      obtain ⟨i, q⟩ := p
      -- A look takes one item off the list, and its dispatch adds at most what the script says.
      have shorter : d.queue.pending.length = q.pending.length + 1 := by
        rw [(pop?_some popped).1, List.length_append, List.length_singleton]
      have bound := length_callsMeanwhile_le plan clock q (s.next i).2.calls
      rw [foldl_copies] at bound
      have fewer : (s.next i).2.calls.foldl (fun n batch => n + copies batch) 0 +
          (s.next i).1.appended = s.appended := by
        obtain ⟨events, afterwards⟩ := s
        cases events with
        | nil => rfl
        | cons e rest => exact (appended_cons e rest afterwards).symm
      simp only [popped, Drain.send, Drain.finish] at eq
      cases result : (s.next i).2.result with
      | error e =>
        simp only [result, Report.finish] at eq
        cases eq
        exact .inr rfl
      | ok v =>
        simp only [result, Report.finish] at eq
        exact ih (by simp only; omega) eq

theorem Leads.enqueue {batch : Nat} (calls : List Call) (script : Script) :
    ∃ ids sent refused, (q.enqueue plan batch clock script).1.sent = sent.map (·.2) ∧
      Leads ⟨q, calls⟩ ⟨(q.enqueue plan batch clock script).1.queue,
        calls ++ ⟨plan, .returned (q.enqueue plan batch clock script).2, ids, sent⟩ ::
          refused⟩ := by
  apply Leads.enqueueWith calls rfl
  intro r drained
  cases copied : q.pushCopies plan clock (copies batch) with
  | mk q₁ pushed =>
    cases pushed with
    | error e =>
      rw [copied] at drained
      cases drained
    | ok ids =>
      cases busy : q₁.processing with
      | true =>
        simp only [copied, tryTake, busy, Bool.not_true] at drained
        cases drained
      | false =>
        simp only [copied, tryTake, busy, Bool.not_false] at drained
        cases ran : Drain.run plan clock Script.next (q₁.pending.length + script.appended) script
            { queue := { q₁ with processing := true } } with
        | mk s d =>
          rw [ran] at drained
          cases drained
          rcases Script.run_over (by exact Nat.le_refl _) ran with none | failed
          · exact .inl (List.length_eq_zero_iff.2 none)
          · exact .inr failed

end Scripts

end Flowgraph.Queue
