import Flowgraph.Proofs.Queue.Interleaving

namespace Flowgraph.Queue

namespace Call

section Views

/-- Whether a call has taken the right to drain the list and not given it back. -/
def holds (c : Call) : Bool :=
  match c.stage with
  | .draining _ | .dispatching .. | .closing _ | .releasing _ => true
  | .pushing _ | .returned _ => false

def loops (c : Call) : Bool :=
  match c.stage with
  | .draining _ | .dispatching .. => true
  | .pushing _ | .closing _ | .releasing _ | .returned _ => false

/-- The item in flight. -/
def held (c : Call) : List Item :=
  match c.stage with
  | .dispatching _ i => [i]
  | _ => []

/-- What the drain of a call has come to so far. -/
def report? (c : Call) : Option Report :=
  match c.stage with
  | .draining r | .dispatching r _ | .closing r | .releasing r | .returned (.drained r) => some r
  | .pushing _ | .returned (.deferred _) | .returned (.failed _) => none

/-- The items with a response in the report. -/
def answered (c : Call) : List String := (c.report?.map (·.responses.keys)).getD []

/-- The failed item of the report. -/
def failed (c : Call) : List Item := (c.report?.bind (·.failed)).toList

/-- Where the items are that a call took off the list. -/
def places (c : Call) : List String := c.held.map (·.id) ++ c.answered ++ c.failed.map (·.id)

end Views

variable {c c' : Call} {q q' : Queue} {s : Signal}

/-- What a call dispatched is in flight, answered or failed, and nothing fails twice. -/
structure Settled (c : Call) : Prop where
  sent : (c.sent.map (·.1)).Perm c.places
  going : c.loops = true → c.failed = []

theorem Settled.step (h : c.Settled) (distinct : (c.sent.map (·.1)).Nodup)
    (step : Step s q c q' c') : c'.Settled := by
  obtain ⟨sent, going⟩ := h
  cases step with
  | push => exact ⟨sent, going⟩
  | fail => exact ⟨sent, going⟩
  | take => exact ⟨sent, fun _ => rfl⟩
  | refuse => exact ⟨sent, going⟩
  | pop r i =>
    refine ⟨?_, going⟩
    rw [List.map_append]
    exact List.perm_append_comm.trans (sent.cons i.id)
  | empty => exact ⟨sent, fun h => by cases h⟩
  | answer r i ok =>
    refine ⟨?_, going⟩
    -- A response displaces no other: this item was dispatched once and is still in flight.
    have absent : i.id ∉ r.responses.keys := by
      have nodup := sent.nodup_iff.1 distinct
      intro listed
      exact (List.nodup_cons.1 nodup).1 (List.mem_append_left _ listed)
    exact sent.trans (((SortedMap.keys_insert_perm _ absent).symm).append_right _)
  | abort r i =>
    refine ⟨?_, fun h => by cases h⟩
    -- Nor does a failure: a call that failed before does not dispatch again.
    have unfailed : r.failed.toList = [] := going rfl
    change List.Perm _ (i.id :: (r.responses.keys ++ r.failed.toList.map (·.id))) at sent
    rw [unfailed, List.map_nil, List.append_nil] at sent
    exact sent.trans (List.perm_append_singleton ..).symm
  | count => exact ⟨sent, fun h => by cases h⟩
  | release => exact ⟨sent, fun h => by cases h⟩
  | rest => exact ⟨sent, going⟩

theorem Step.ids_sublist (step : Step s q c q' c') : c.ids.Sublist c'.ids := by
  cases step with
  | push id => exact List.sublist_append_left ..
  | _ => exact .refl _

theorem Step.plan_eq (step : Step s q c q' c') : c'.plan = c.plan := by
  cases step <;> rfl

/-- The right to drain the list is taken and given back together with the flag. -/
theorem Step.holds_flag (step : Step s q c q' c')
    (owner : c.holds = true → q.processing = true) :
    (if q'.processing then 1 else 0) + (if c.holds then 1 else 0) =
      (if q.processing then 1 else 0) + (if c'.holds then 1 else 0) := by
  cases step with
  | push id pending flag => simp [flag, holds]
  | fail pending flag => simp [flag, holds]
  | take free => simp [free, holds]
  | release => simp [owner rfl, holds]
  | _ => simp [holds]

structure Handles (P : Item → Prop) (c : Call) : Prop where
  held : ∀ i ∈ c.held, P i
  failed : ∀ i ∈ c.failed, ∃ j, P j ∧ i = { j with status := .error }
  sent : ∀ e ∈ c.sent, ∃ i, P i ∧ e = (i.id, i.plan.toText)

theorem Handles.mono {P P' : Item → Prop} (h : c.Handles P) (sub : ∀ i, P i → P' i) :
    c.Handles P' where
  held i hi := sub i (h.held i hi)
  failed i hi := by
    obtain ⟨j, hj, eq⟩ := h.failed i hi
    exact ⟨j, sub j hj, eq⟩
  sent e he := by
    obtain ⟨i, hi, eq⟩ := h.sent e he
    exact ⟨i, sub i hi, eq⟩

theorem Handles.step {P : Item → Prop} (h : c.Handles P) (pending : ∀ i ∈ q.pending, P i)
    (step : Step s q c q' c')
    (own : ∀ id ∈ c'.ids, P ⟨id, .queued, { c'.plan with promptId := some id }⟩) :
    c'.Handles P ∧ ∀ i ∈ q'.pending, P i := by
  obtain ⟨held, failed, sent⟩ := h
  cases step with
  | push id eq =>
    refine ⟨⟨held, failed, sent⟩, fun i hi => ?_⟩
    rw [eq, List.mem_append, List.mem_singleton] at hi
    rcases hi with hi | rfl
    · exact pending i hi
    · exact own id (List.mem_append_right _ List.mem_cons_self)
  | fail eq =>
    refine ⟨⟨held, failed, sent⟩, ?_⟩
    rw [eq]
    exact pending
  | pop r i some =>
    have last : P i := pending i (by simp [some])
    refine ⟨⟨?_, failed, ?_⟩, fun j hj => pending j (by simp [some, hj])⟩
    · intro j hj
      rwa [List.mem_singleton.1 hj]
    · intro e he
      rcases List.mem_append.1 he with he | he
      · exact sent e he
      · exact ⟨i, last, List.mem_singleton.1 he⟩
  | abort r i =>
    refine ⟨⟨fun j hj => (by cases hj), ?_, sent⟩, pending⟩
    intro j hj
    exact ⟨i, held i List.mem_cons_self, List.mem_singleton.1 hj⟩
  | answer => exact ⟨⟨fun j hj => (by cases hj), failed, sent⟩, pending⟩
  | _ => exact ⟨⟨held, failed, sent⟩, pending⟩

end Call

namespace World

variable {w : World}

def holders (w : World) : Nat := w.calls.countP Call.holds

def ids (w : World) : List String := w.calls.flatMap Call.ids

/-- The items in flight. -/
def held (w : World) : List Item := w.calls.flatMap Call.held

/-- The items with a response in a report. -/
def answered (w : World) : List String := w.calls.flatMap Call.answered

/-- The items that failed, as the reports have them. -/
def failed (w : World) : List Item := w.calls.flatMap Call.failed

def sent (w : World) : List (String × String) := w.calls.flatMap Call.sent

def Enqueued (w : World) (i : Item) : Prop :=
  ∃ c ∈ w.calls, ∃ id ∈ c.ids, i = ⟨id, .queued, { c.plan with promptId := some id }⟩

/-- Exactly one call holds the right to drain the list if it is taken, and none otherwise. -/
def Exclusive (w : World) : Prop := w.holders = if w.queue.processing then 1 else 0

theorem Exclusive.step (h : w.Exclusive) (m : Move) : (w.step m).Exclusive := by
  apply step_cases m h
  case started =>
    intro plan batch _
    simpa [Exclusive, holders, Call.start, Call.holds] using h
  case advanced =>
    intro s before c after q c' _ split step
    simp only [Exclusive, holders, split, List.countP_append, List.countP_cons] at h ⊢
    -- The flag counts the holders, so a call that holds the right finds it set.
    have owner : c.holds = true → w.queue.processing = true := by
      intro holds
      cases free : w.queue.processing with
      | true => rfl
      | false => simp [holds, free] at h
    have change := step.holds_flag owner
    omega

/-- Every appended item is pending or was dispatched, and dispatched as often as appended. -/
def Balanced (w : World) : Prop :=
  (w.queue.pending.map (·.id) ++ w.sent.map (·.1)).Perm w.ids

theorem Balanced.step (h : w.Balanced) (m : Move) : (w.step m).Balanced := by
  apply step_cases m h
  case started =>
    intro plan batch _
    simpa [Balanced, sent, ids, Call.start] using h
  case advanced =>
    intro s before c after q c' _ split step
    rw [Balanced, List.perm_iff_count] at h ⊢
    intro x
    have h := h x
    simp only [sent, ids, split, List.flatMap_append, List.flatMap_cons, List.map_append,
      List.count_append] at h ⊢
    cases step with
    | push id pending =>
      simp only [pending, List.map_append, List.count_append, List.map_cons, List.map_nil] at h ⊢
      omega
    | fail pending =>
      rw [pending]
      exact h
    | pop r i some =>
      simp only [some, List.map_append, List.count_append, List.map_cons, List.map_nil] at h ⊢
      omega
    | _ => exact h

/-- Items are those that were appended: pending and in flight as they are, failed ones but for
their status, and dispatched ones by their bodies. -/
structure Genuine (w : World) : Prop where
  pending : ∀ i ∈ w.queue.pending, w.Enqueued i
  calls : ∀ c ∈ w.calls, c.Handles w.Enqueued

theorem Genuine.step (h : w.Genuine) (m : Move) : (w.step m).Genuine := by
  apply step_cases m h
  case started =>
    intro plan batch _
    have sub (i : Item) (known : w.Enqueued i) :
        Enqueued { w with calls := w.calls ++ [.start plan batch] } i := by
      obtain ⟨c, hc, rest⟩ := known
      exact ⟨c, List.mem_append_left _ hc, rest⟩
    refine ⟨fun i hi => sub i (h.pending i hi), fun c hc => ?_⟩
    rcases List.mem_append.1 hc with hc | hc
    · exact (h.calls c hc).mono sub
    · rw [List.mem_singleton.1 hc]
      constructor <;> intro e he <;> cases he
  case advanced =>
    intro s before c after q c' _ split step
    have sub (i : Item) (known : w.Enqueued i) : Enqueued ⟨q, before ++ c' :: after⟩ i := by
      obtain ⟨a, ha, id, hid, rfl⟩ := known
      rw [split, List.mem_append, List.mem_cons] at ha
      rcases ha with ha | rfl | ha
      · exact ⟨a, by simp [ha], id, hid, rfl⟩
      · exact ⟨c', by simp, id, step.ids_sublist.subset hid, by rw [step.plan_eq]⟩
      · exact ⟨a, by simp [ha], id, hid, rfl⟩
    have own : ∀ id ∈ c'.ids, Enqueued ⟨q, before ++ c' :: after⟩
        ⟨id, .queued, { c'.plan with promptId := some id }⟩ :=
      fun id hid => ⟨c', by simp, id, hid, rfl⟩
    have mover := (h.calls c (by simp [split])).mono sub
    have moved := mover.step (fun i hi => sub i (h.pending i hi)) step own
    refine ⟨moved.2, fun a ha => ?_⟩
    rw [List.mem_append, List.mem_cons] at ha
    rcases ha with ha | rfl | ha
    · exact (h.calls a (by simp [split, ha])).mono sub
    · exact moved.1
    · exact (h.calls a (by simp [split, ha])).mono sub

theorem ids_sublist_step (w : World) (m : Move) : w.ids.Sublist (w.step m).ids := by
  apply step_cases (P := fun w' => w.ids.Sublist w'.ids) m (.refl _)
  case started =>
    intro plan batch _
    simp [ids]
  case advanced =>
    intro s before c after q c' _ split step
    simp only [ids, split, List.flatMap_append, List.flatMap_cons]
    exact (List.Sublist.refl _).append (step.ids_sublist.append (.refl _))

/-- The reports of calls account for what the calls dispatched, if identifiers are distinct. -/
def Settled (w : World) : Prop := w.ids.Nodup → ∀ c ∈ w.calls, c.Settled

theorem Settled.step (h : w.Settled) (balanced : w.Balanced) (m : Move) : (w.step m).Settled := by
  intro distinct
  have earlier := distinct.sublist (ids_sublist_step w m)
  have h := h earlier
  -- Whatever was dispatched was appended, so distinct identifiers are dispatched once.
  have once : (w.sent.map (·.1)).Nodup :=
    (List.nodup_append.1 (balanced.nodup_iff.2 earlier)).2.1
  apply step_cases (P := fun w => ∀ c ∈ w.calls, c.Settled) m h
  case started =>
    intro plan batch _ c hc
    rcases List.mem_append.1 hc with hc | hc
    · exact h c hc
    · rw [List.mem_singleton.1 hc]
      exact ⟨.refl _, fun going => by cases going⟩
  case advanced =>
    intro s before c after q c' _ split step a ha
    simp only [sent, split, List.flatMap_append, List.flatMap_cons, List.map_append] at once
    have own := (List.nodup_append.1 (List.nodup_append.1 once).2.1).1
    rw [split] at h
    rw [List.mem_append, List.mem_cons] at ha
    rcases ha with ha | rfl | ha
    · exact h a (by simp [ha])
    · exact (h c (by simp)).step own step
    · exact h a (by simp [ha])

theorem held_length_le (w : World) : w.held.length ≤ w.holders := by
  obtain ⟨q, calls⟩ := w
  simp only [held, holders]
  induction calls with
  | nil => exact Nat.le_refl 0
  | cons c calls ih =>
    have one : c.held.length ≤ if c.holds then 1 else 0 := by
      obtain ⟨p, stage, ids, sent⟩ := c
      cases stage <;> simp [Call.held, Call.holds]
    simp only [List.flatMap_cons, List.length_append, List.countP_cons]
    omega

/-- Where the right to drain the list and the appended items are. -/
structure Accounted (w : World) : Prop where
  exclusive : w.holders = if w.queue.processing then 1 else 0
  in_flight : w.held.length ≤ 1
  /-- Every appended item is in one place, in which it is once. -/
  places : (w.queue.pending.map (·.id) ++ w.held.map (·.id) ++ w.answered ++
    w.failed.map (·.id)).Perm w.ids
  /-- What is pending waits as it was appended. -/
  pending : ∀ i ∈ w.queue.pending, w.Enqueued i
  held : ∀ i ∈ w.held, w.Enqueued i
  failed : ∀ i ∈ w.failed, ∃ j, w.Enqueued j ∧ i = { j with status := .error }
  sent_once : (w.sent.map (·.1)).Nodup
  /-- What is sent is a plan of which nothing but the identifier has changed. -/
  sent : ∀ e ∈ w.sent, ∃ c ∈ w.calls, ∃ id ∈ c.ids,
    e = (id, ({ c.plan with promptId := some id } : ExecutionPlan).toText)

theorem sent_perm_places (h : ∀ c ∈ w.calls, c.Settled) :
    (w.sent.map (·.1)).Perm (w.held.map (·.id) ++ w.answered ++ w.failed.map (·.id)) := by
  obtain ⟨q, calls⟩ := w
  simp only [World.sent, World.held, World.answered, World.failed]
  induction calls with
  | nil => exact .refl _
  | cons c calls ih =>
    have ih := ih fun c hc => h c (List.mem_cons_of_mem _ hc)
    have own := (h c List.mem_cons_self).sent
    -- The places come call by call on one side and kind by kind on the other.
    rw [List.perm_iff_count] at ih own ⊢
    intro x
    have ih := ih x
    have own := own x
    simp only [Call.places, List.flatMap_cons, List.map_append, List.count_append] at ih own ⊢
    omega

/-- Whatever the order of their steps and the results of their dispatches, calls account for every
item that they append, and drain the list one at a time. -/
theorem run_accounted (moves : List Move) (distinct : (run moves).ids.Nodup) :
    (run moves).Accounted := by
  have exclusive : (run moves).Exclusive :=
    run_invariant (P := Exclusive) rfl (fun _ m h => h.step m) moves
  have genuine : (run moves).Genuine := by
    apply run_invariant (P := Genuine)
    · exact ⟨fun i hi => (by cases hi), fun c hc => (by cases hc)⟩
    · exact fun w m h => h.step m
  have ⟨balanced, settled⟩ : (run moves).Balanced ∧ (run moves).Settled := by
    apply run_invariant (P := fun w => w.Balanced ∧ w.Settled)
    · refine ⟨.refl _, fun _ c hc => ?_⟩
      cases hc
    · intro w m h
      exact ⟨h.1.step m, h.2.step h.1 m⟩
  have places := sent_perm_places (settled distinct)
  constructor
  case exclusive => exact exclusive
  case in_flight =>
    have le := held_length_le (run moves)
    rw [exclusive] at le
    split at le <;> omega
  case places =>
    rw [List.append_assoc, List.append_assoc, ← List.append_assoc (World.held _ |>.map _)]
    exact (places.symm.append_left _).trans balanced
  case pending => exact genuine.pending
  case held =>
    intro i hi
    obtain ⟨c, hc, hi⟩ := List.mem_flatMap.1 hi
    exact (genuine.calls c hc).held i hi
  case failed =>
    intro i hi
    obtain ⟨c, hc, hi⟩ := List.mem_flatMap.1 hi
    exact (genuine.calls c hc).failed i hi
  case sent_once => exact (List.nodup_append.1 (balanced.nodup_iff.2 distinct)).2.1
  case sent =>
    intro e he
    obtain ⟨c, hc, he⟩ := List.mem_flatMap.1 he
    obtain ⟨i, ⟨a, ha, id, hid, rfl⟩, eq⟩ := (genuine.calls c hc).sent e he
    exact ⟨a, ha, id, hid, eq⟩

/-- A call is refused while another one dispatches its item, until a dispatch fails. -/
theorem accounted_after_failure :
    let plan : ExecutionPlan := { prompt := .empty, workflow := {}, checksum := "c" }
    let at_ (now : Int) : Signal := { moment := ⟨now, List.replicate 12 0⟩ }
    let down : Signal := { result := .error (.socket "down") }
    let w := run [.start plan 2, .start plan 1, .advance 0 (at_ 1), .advance 0 (at_ 1),
      .advance 0 {}, .advance 1 (at_ 2), .advance 0 {}, .advance 1 {}, .advance 0 {},
      .advance 0 {}, .advance 0 down, .advance 0 {}, .advance 0 {}]
    w.ids.Nodup ∧ w.queue.pending.length = 1 ∧ w.failed.length = 1 ∧ w.Accounted := by
  intro plan at_ down w
  have distinct : w.ids.Nodup := by decide +kernel
  exact ⟨distinct, by decide +kernel, by decide +kernel, run_accounted _ distinct⟩

end World

end Flowgraph.Queue
