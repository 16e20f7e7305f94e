import Flowgraph.Proofs.Queue.Accounting

namespace Flowgraph.Queue

namespace Call

/-- Whether a call is still to find out whether it drains the list. -/
def pushes (c : Call) : Bool :=
  match c.stage with
  | .pushing _ => true
  | _ => false

def left (c : Call) : Bool :=
  match c.stage with
  | .returned (.deferred _) | .returned (.failed _) => true
  | _ => false

def ended (c : Call) : Bool :=
  match c.stage with
  | .returned _ => true
  | _ => false

theorem idle_of_ended (c : Call) (ended : c.ended = true) : c.loops = false ∧ c.pushes = false := by
  obtain ⟨p, stage, ids, sent⟩ := c
  cases stage with
  | returned => exact ⟨rfl, rfl⟩
  | _ => cases ended

variable {c c' : Call} {q q' : Queue} {s : Signal}

/-- After a step that leaves items pending, a call that neither looks at them again nor is about to
find out whether it does has just left or did not before either. -/
theorem Step.left_or_idle (step : Step s q c q' c') (responds : ∃ v, s.result = .ok v)
    (pending : q'.pending ≠ []) (unseen : c'.loops = false) (decided : c'.pushes = false) :
    (c.left = false ∧ c'.left = true) ∨
      (q.pending ≠ [] ∧ c.loops = false ∧ c.pushes = false) ∧
        (q'.processing = true → q.processing = true) := by
  cases step with
  | push => cases decided
  | fail => exact .inl ⟨rfl, rfl⟩
  | take => cases unseen
  | refuse => exact .inl ⟨rfl, rfl⟩
  | pop => cases unseen
  | empty none => exact absurd none pending
  | answer => cases unseen
  | abort r i failed =>
    obtain ⟨v, ok⟩ := responds
    rw [ok] at failed
    cases failed
  | count => exact .inr ⟨⟨pending, rfl, rfl⟩, id⟩
  | release => exact .inr ⟨⟨pending, rfl, rfl⟩, fun busy => by cases busy⟩
  | rest => exact .inr ⟨⟨pending, rfl, rfl⟩, id⟩

theorem Step.pending_of_idle (step : Step s q c q' c') (pending : q.pending ≠ [])
    (unseen : c.loops = false) (quiet : q.processing = true ∨ q'.processing = false) :
    q'.pending ≠ [] ∧ c'.loops = false := by
  cases step with
  | push id eq => exact ⟨by simp [eq], rfl⟩
  | fail eq => exact ⟨by rwa [eq], rfl⟩
  | take free =>
    rcases quiet with busy | free'
    · rw [free] at busy
      cases busy
    · cases free'
  | pop => cases unseen
  | answer => cases unseen
  | _ => exact ⟨pending, rfl⟩

end Call

def Move.Responds : Move → Prop
  | .start .. => True
  | .advance _ s => ∃ v, s.result = .ok v

namespace World

def looping (w : World) : Bool := w.calls.any Call.loops

def pushing (w : World) : Bool := w.calls.any Call.pushes

/-- A call leaves without draining the list, items are pending, and no other call will look at
them. -/
structure Strands (w w' : World) : Prop where
  leaves : w.calls.countP Call.left < w'.calls.countP Call.left
  pending : w'.queue.pending ≠ []
  unseen : w'.looping = false

def Takes (w w' : World) : Prop := w.queue.processing = false ∧ w'.queue.processing = true

/-- A call has stranded items, and since then no call has taken the right to drain the list. -/
inductive LeftBehind : List Move → Prop
  | strand {moves m} :
    Strands (run moves) (run (moves ++ [m])) → LeftBehind (moves ++ [m])
  | wait {moves m} :
    LeftBehind moves → ¬Takes (run moves) (run (moves ++ [m])) → LeftBehind (moves ++ [m])

variable {w : World} {moves : List Move} {m : Move}

theorem leftBehind_concat : LeftBehind (moves ++ [m]) ↔
    Strands (run moves) ((run moves).step m) ∨
      LeftBehind moves ∧ ¬Takes (run moves) ((run moves).step m) := by
  rw [← run_concat]
  constructor
  · intro h
    generalize eq : moves ++ [m] = all at h
    cases h with
    | strand strands =>
      obtain ⟨rfl, last⟩ := List.append_inj' eq rfl
      cases last
      exact .inl strands
    | wait before quiet =>
      obtain ⟨rfl, last⟩ := List.append_inj' eq rfl
      cases last
      exact .inr ⟨before, quiet⟩
  · rintro (strands | ⟨before, quiet⟩)
    · exact .strand strands
    · exact .wait before quiet

/-- Pending items that nobody is about to look at were stranded now or lay there before. -/
theorem strands_or_waits (responds : m.Responds) (pending : (w.step m).queue.pending ≠ [])
    (unseen : (w.step m).looping = false) (decided : (w.step m).pushing = false) :
    Strands w (w.step m) ∨
      (w.queue.pending ≠ [] ∧ w.looping = false ∧ w.pushing = false) ∧ ¬Takes w (w.step m) := by
  revert pending unseen decided
  apply step_cases (P := fun w' => w'.queue.pending ≠ [] → w'.looping = false →
    w'.pushing = false → Strands w w' ∨
      (w.queue.pending ≠ [] ∧ w.looping = false ∧ w.pushing = false) ∧ ¬Takes w w') m
  case same =>
    intro pending unseen decided
    exact .inr ⟨⟨pending, unseen, decided⟩, fun takes => by simp [Takes] at takes⟩
  case started =>
    intro plan batch _ _ _ decided
    simp [pushing, Call.start, Call.pushes] at decided
  case advanced =>
    rintro s before c after q c' rfl split step pending unseen decided
    have idle := unseen
    simp only [looping, pushing, split, List.any_append, List.any_cons, Bool.or_eq_false_iff]
      at idle decided ⊢
    rcases step.left_or_idle responds pending idle.2.1 decided.2.1 with ⟨stays, leaves⟩ | same
    · refine .inl ⟨?_, pending, unseen⟩
      simp [split, stays, leaves]
    · refine .inr ⟨⟨same.1.1, ⟨idle.1, same.1.2.1, idle.2.2⟩, decided.1, same.1.2.2, decided.2.2⟩,
        fun takes => ?_⟩
      have busy := same.2 takes.2
      rw [takes.1] at busy
      cases busy

/-- Items that nobody is about to look at stay pending until a call takes the right to drain. -/
theorem pending_of_unseen (pending : w.queue.pending ≠ []) (unseen : w.looping = false)
    (quiet : ¬Takes w (w.step m)) : (w.step m).queue.pending ≠ [] ∧ (w.step m).looping = false := by
  revert quiet
  apply step_cases (P := fun w' => ¬Takes w w' → w'.queue.pending ≠ [] ∧ w'.looping = false) m
  case same => exact fun _ => ⟨pending, unseen⟩
  case started =>
    intro plan batch _ _
    exact ⟨pending, by simpa [looping, Call.start, Call.loops] using unseen⟩
  case advanced =>
    rintro s before c after q c' rfl split step quiet
    simp only [looping, split, List.any_append, List.any_cons, Bool.or_eq_false_iff] at unseen ⊢
    have quiet : w.queue.processing = true ∨ q.processing = false := by
      simpa [Takes, Decidable.or_iff_not_imp_left] using quiet
    obtain ⟨pending, idle⟩ := step.pending_of_idle pending unseen.2.1 quiet
    exact ⟨pending, unseen.1, idle, unseen.2.2⟩

theorem leftBehind_of_pending (moves : List Move) (responds : ∀ m ∈ moves, m.Responds)
    (pending : (run moves).queue.pending ≠ []) (unseen : (run moves).looping = false)
    (decided : (run moves).pushing = false) : LeftBehind moves := by
  -- From the last move back to the one that stranded what is pending: there is one, as the list
  -- was empty at the start.
  induction moves using List.reverseRecOn with
  | nil => exact absurd rfl pending
  | append_singleton moves m ih =>
    rw [run_concat] at pending unseen decided
    rw [leftBehind_concat]
    have last : m.Responds := responds m (by simp)
    rcases strands_or_waits last pending unseen decided with strands | ⟨⟨p, u, d⟩, quiet⟩
    · exact .inl strands
    · exact .inr ⟨ih (fun m hm => responds m (by simp [hm])) p u d, quiet⟩

theorem LeftBehind.pending (h : LeftBehind moves) :
    (run moves).queue.pending ≠ [] ∧ (run moves).looping = false := by
  induction h with
  | strand strands => exact ⟨strands.pending, strands.unseen⟩
  | wait before quiet ih =>
    rw [run_concat] at quiet ⊢
    exact pending_of_unseen ih.1 ih.2 quiet

/-- Once all calls have ended and every dispatch had a response, the list is empty exactly if
no items were left behind. Then every item was dispatched, and once. -/
theorem run_pending_eq_nil_iff (moves : List Move) (responds : ∀ m ∈ moves, m.Responds)
    (ended : ∀ c ∈ (run moves).calls, c.ended = true) :
    ((run moves).queue.pending = [] ↔ ¬LeftBehind moves) ∧
      ((run moves).queue.pending = [] → ((run moves).sent.map (·.1)).Perm (run moves).ids) := by
  constructor
  · constructor
    · exact fun empty behind => behind.pending.1 empty
    · intro picked
      by_cases empty : (run moves).queue.pending = []
      · exact empty
      · refine absurd (leftBehind_of_pending moves responds empty ?_ ?_) picked
        · exact List.any_eq_false.2 fun c hc => by simp [(c.idle_of_ended (ended c hc)).1]
        · exact List.any_eq_false.2 fun c hc => by simp [(c.idle_of_ended (ended c hc)).2]
  · intro empty
    have balanced : (run moves).Balanced := run_invariant (.refl _) (fun _ m h => h.step m) moves
    rwa [Balanced, empty] at balanced

/-- A call is refused while another one dispatches, which finds its item then. -/
theorem picked_up_while_dispatching :
    let plan : ExecutionPlan := { prompt := .empty, workflow := {}, checksum := "c" }
    let at_ (now : Int) : Signal := { moment := ⟨now, List.replicate 12 0⟩ }
    let moves : List Move := [.start plan 1, .advance 0 (at_ 1), .advance 0 {}, .advance 0 {},
      .start plan 1, .advance 1 (at_ 2), .advance 1 {}, .advance 0 {}, .advance 0 {},
      .advance 0 {}, .advance 0 {}, .advance 0 {}, .advance 0 {}]
    (∀ m ∈ moves, m.Responds) ∧ (∀ c ∈ (run moves).calls, c.ended = true) ∧
      ¬LeftBehind moves ∧ ((run moves).sent.map (·.1)).Perm (run moves).ids := by
  intro plan at_ moves
  have responds : ∀ m ∈ moves, m.Responds := by simp [moves, at_, Move.Responds]
  have ended : ∀ c ∈ (run moves).calls, c.ended = true := by decide +kernel
  have empty : (run moves).queue.pending = [] := List.length_eq_zero_iff.1 (by decide +kernel)
  obtain ⟨iff, all⟩ := run_pending_eq_nil_iff moves responds ended
  exact ⟨responds, ended, iff.1 empty, all empty⟩

/-- A call comes in after the last look at the list, is refused, and leaves its item behind. -/
theorem not_always_picked_up :
    ¬∀ moves, (∀ m ∈ moves, Move.Responds m) → (∀ c ∈ (run moves).calls, c.ended = true) →
      (run moves).queue.pending = [] := by
  intro always
  let plan : ExecutionPlan := { prompt := .empty, workflow := {}, checksum := "c" }
  let at_ (now : Int) : Signal := { moment := ⟨now, List.replicate 12 0⟩ }
  let moves : List Move := [.start plan 1, .advance 0 (at_ 1), .advance 0 {}, .advance 0 {},
    .advance 0 {}, .advance 0 {}, .start plan 1, .advance 1 (at_ 2), .advance 1 {},
    .advance 0 {}, .advance 0 {}]
  have empty := always moves (by simp [moves, at_, Move.Responds]) (by decide +kernel)
  have one : (run moves).queue.pending.length = 1 := by decide +kernel
  rw [empty] at one
  cases one

end World

end Flowgraph.Queue
