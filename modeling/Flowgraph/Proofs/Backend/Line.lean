import Flowgraph.Workspace.Basic
import Mathlib.Data.List.Induction

namespace Flowgraph

namespace Channel

/-- No socket can be asked for at an address, or not with what is offered. -/
def Unusable (url : String) (protocols : List String) : Prop :=
  isAddress url = false ∨ isHeaderValue (String.intercalate ", " protocols) = false

instance (url : String) (protocols : List String) : Decidable (Unusable url protocols) :=
  inferInstanceAs (Decidable (_ ∨ _))

variable {c : Channel} {url : String} {protocols : List String}

theorem prepare_unusable (unusable : Unusable url protocols) :
    ∃ f, c.prepare (.ready url protocols) =
      ({ c.stopReader with ready := .connecting }, .error f) := by
  by_cases address : isAddress url = true
  · have illegal := unusable.resolve_left (Bool.not_eq_false _ ▸ address)
    refine ⟨.socket "invalid sub-protocol list", ?_⟩
    simp only [prepare, address, illegal, Bool.not_true, Bool.not_false, Bool.false_eq_true,
      if_true, if_false]
  · refine ⟨.socket "invalid address", ?_⟩
    simp only [prepare, address, Bool.not_false, if_true]

theorem prepare_usable (usable : ¬Unusable url protocols) :
    c.prepare (.ready url protocols) = ({ c.stopReader with ready := .connecting },
      .ok (some ⟨url, String.intercalate ", " protocols⟩)) := by
  obtain ⟨address, legal⟩ := not_or.1 usable
  rw [Bool.not_eq_false] at address legal
  simp only [prepare, address, legal, Bool.not_true, Bool.false_eq_true, if_false]

end Channel

/-- A channel, its readers and the calls on it that wait. -/
structure Line where
  channel : Channel := {}
  /-- The connections that are still read although the channel has lost sight of them. -/
  adrift : List Nat := []
  /-- How many calls wait for a handshake. -/
  asking : Nat := 0
  /-- How many calls wait for a socket to close. -/
  closing : Nat := 0

abbrev Channel.line (c : Channel) : Line := { channel := c }

namespace Line

open Channel (Unusable)

/-- What happens next: a call begins, goes on after it waited, or the other side hangs up. -/
inductive Event where
  | connect (m : Channel.Means)
  | settle (h : Handshake)
  | close
  | closed
  | hangUp (k : Nat)

def Event.Begins : Event → Prop
  | .connect _ | .close => True
  | .settle _ | .closed | .hangUp _ => False

variable {P : Line → Event → Prop} {l : Line} {e : Event} {es fs : List Event} {c : Channel}

/-- The connection that an accepted one takes the place of. -/
def displaced (c : Channel) : Handshake → List Nat
  | .accepted .. => c.reader.toList
  | _ => []

def step (l : Line) : Event → Line
  | .connect m =>
    match l.channel.prepare m with
    | (c, .ok (some _)) => { l with channel := c, asking := l.asking + 1 }
    | (c, _) => { l with channel := c }
  | .settle h =>
    if l.asking = 0 then l
    else { l with
      channel := (l.channel.settle h).1
      adrift := l.adrift ++ displaced l.channel h
      asking := l.asking - 1 }
  | .close => { l with
      channel := { l.channel.stopReader with ready := .closing }
      closing := l.closing + 1 }
  | .closed =>
    if l.closing = 0 then l
    else { l with channel := { l.channel with ready := .closed }, closing := l.closing - 1 }
  | .hangUp k =>
    if l.channel.reader = some k then { l with channel := l.channel.hangUp }
    else if k ∈ l.adrift then
      { l with channel := { l.channel with ready := .closed }, adrift := l.adrift.erase k }
    else l

def run (l : Line) (es : List Event) : Line := es.foldl step l

/-- The connections whose frames are delivered. -/
def readers (l : Line) : List Nat := l.channel.reader.toList ++ l.adrift

def Idle (l : Line) : Prop := l.asking = 0 ∧ l.closing = 0

/-- The state of the channel is open just if the latest connection is read, and closed otherwise,
and nothing else is read. -/
structure Truthful (l : Line) : Prop where
  open_iff : l.channel.ready = .open ↔ ∃ k ∈ l.readers, k + 1 = l.channel.connections
  closed : l.channel.ready ≠ .open → l.channel.ready = .closed
  latest : ∀ k ∈ l.readers, k + 1 = l.channel.connections
  single : l.readers.length ≤ 1

/-- The steps that let the state and the readers part: a call that finds no session, or goes on
after it waited, while a connection is read, and a call that cannot ask for a socket while no other
call waits. -/
def Slips (l : Line) : Event → Prop
  | .connect .noSession => l.channel.reader.isSome = true
  | .connect (.ready url protocols) => Unusable url protocols ∧ l.Idle
  | .settle _ => l.asking ≠ 0 ∧ l.channel.reader.isSome = true
  | .closed => l.closing ≠ 0 ∧ l.channel.reader.isSome = true
  | .close | .hangUp _ => False

instance : Decidable l.Idle := inferInstanceAs (Decidable (_ ∧ _))

instance : DecidablePred l.Slips
  | .connect .noSession => inferInstanceAs (Decidable (_ = _))
  | .connect (.ready _ _) => inferInstanceAs (Decidable (_ ∧ _))
  | .settle _ => inferInstanceAs (Decidable (_ ∧ _))
  | .closed => inferInstanceAs (Decidable (_ ∧ _))
  | .close | .hangUp _ => inferInstanceAs (Decidable False)

def Along (P : Line → Event → Prop) : Line → List Event → Prop
  | _, [] => True
  | l, e :: es => P l e ∧ Along P (l.step e) es

def Along.decidable [∀ l e, Decidable (P l e)] : ∀ l es, Decidable (Along P l es)
  | _, [] => inferInstanceAs (Decidable True)
  | l, e :: es =>
    have := Along.decidable (l.step e) es
    inferInstanceAs (Decidable (_ ∧ _))

def SlipFree : Line → List Event → Prop := Along fun l e => ¬l.Slips e

instance : Decidable (SlipFree l es) := Along.decidable l es

def Orderly : Line → List Event → Prop := Along fun l e => e.Begins → l.Idle

theorem run_append : l.run (es ++ fs) = (l.run es).run fs := List.foldl_append

theorem along_append : Along P l (es ++ fs) ↔ Along P l es ∧ Along P (l.run es) fs := by
  induction es generalizing l with
  | nil => exact (and_iff_right trivial).symm
  | cons e es ih => exact (and_congr_right fun _ => ih).trans and_assoc.symm

section Step

variable {url : String} {protocols : List String} {h : Handshake}

theorem step_unusable (unusable : Unusable url protocols) :
    l.step (.connect (.ready url protocols)) =
      { l with channel := { l.channel.stopReader with ready := .connecting } } := by
  obtain ⟨f, prepared⟩ := Channel.prepare_unusable (c := l.channel) unusable
  simp only [step, prepared]

theorem step_usable (usable : ¬Unusable url protocols) :
    l.step (.connect (.ready url protocols)) =
      { l with
        channel := { l.channel.stopReader with ready := .connecting }
        asking := l.asking + 1 } := by
  simp only [step, Channel.prepare_usable usable]

theorem step_settle_unasked (unasked : l.asking = 0) : l.step (.settle h) = l := if_pos unasked

theorem step_settle (asked : l.asking ≠ 0) :
    l.step (.settle h) = { l with
      channel := (l.channel.settle h).1
      adrift := l.adrift ++ displaced l.channel h
      asking := l.asking - 1 } :=
  if_neg asked

theorem step_closed_unasked (unasked : l.closing = 0) : l.step .closed = l := if_pos unasked

theorem step_closed (asked : l.closing ≠ 0) :
    l.step .closed =
      { l with channel := { l.channel with ready := .closed }, closing := l.closing - 1 } :=
  if_neg asked

theorem step_hangUp {k : Nat} (held : l.channel.reader = some k) :
    l.step (.hangUp k) = { l with channel := { l.channel.stopReader with ready := .closed } } := by
  simp only [step, Channel.hangUp, held, if_true, Option.isSome_some]

/-- The calls of a channel one after the other are runs that end without a waiting call. -/
theorem run_connect (m : Channel.Means) (h : Handshake) :
    c.line.run [.connect m, .settle h] = (c.connect m h).1.line := by
  cases m with
  | noSession => rfl
  | ready url protocols =>
    by_cases unusable : Unusable url protocols
    · obtain ⟨f, prepared⟩ := Channel.prepare_unusable (c := c) unusable
      simp only [run, List.foldl, step_unusable unusable, Channel.connect, prepared]
      exact step_settle_unasked rfl
    · simp only [run, List.foldl, step_usable unusable, Channel.connect,
        Channel.prepare_usable unusable]
      cases h <;> rfl

end Step

/-- What holds of a line as long as nothing slipped. -/
structure Steady (l : Line) : Prop where
  adrift : l.adrift = []
  held : ∀ k, l.channel.reader = some k →
    l.channel.ready = .open ∧ k + 1 = l.channel.connections
  read : l.channel.ready = .open → l.channel.reader.isSome = true
  settled : l.Idle → l.channel.ready = .open ∨ l.channel.ready = .closed

theorem steady_new : ({} : Line).Steady where
  adrift := rfl
  held _ h := nomatch h
  read h := nomatch h
  settled _ := .inr rfl

/-- Without a reader a line is steady if nothing is adrift and its state is not open, and closed
when no call waits. -/
theorem steady_of_unread (adrift : l.adrift = []) (unread : l.channel.reader = none)
    (shut : l.channel.ready ≠ .open) (settled : l.Idle → l.channel.ready = .closed) :
    l.Steady where
  adrift := adrift
  held _ held := nomatch unread.symm.trans held
  read opened := absurd opened shut
  settled idle := .inr (settled idle)

namespace Steady

theorem mem_readers (steady : l.Steady) {k : Nat} :
    k ∈ l.readers ↔ l.channel.reader = some k := by
  rw [readers, steady.adrift, List.append_nil, Option.mem_toList]

theorem truthful (steady : l.Steady) (idle : l.Idle) : l.Truthful where
  open_iff := by
    constructor
    · intro opened
      obtain ⟨k, held⟩ := Option.isSome_iff_exists.1 (steady.read opened)
      exact ⟨k, steady.mem_readers.2 held, (steady.held k held).2⟩
    · rintro ⟨k, mem, _⟩
      exact (steady.held k (steady.mem_readers.1 mem)).1
  closed shut := (steady.settled idle).resolve_left shut
  latest k mem := (steady.held k (steady.mem_readers.1 mem)).2
  single := by
    rw [readers, steady.adrift, List.append_nil]
    cases l.channel.reader with
    | none => exact Nat.zero_le 1
    | some k => exact Nat.le_refl 1

theorem step (steady : l.Steady) (firm : ¬l.Slips e) : (l.step e).Steady := by
  cases e with
  | connect m =>
    cases m with
    | noSession =>
      have unread : l.channel.reader = none := Option.not_isSome_iff_eq_none.1 firm
      exact steady_of_unread steady.adrift unread nofun fun _ => rfl
    | ready url protocols =>
      by_cases unusable : Unusable url protocols
      · rw [step_unusable unusable]
        exact steady_of_unread steady.adrift rfl nofun fun idle => absurd ⟨unusable, idle⟩ firm
      · rw [step_usable unusable]
        exact steady_of_unread steady.adrift rfl nofun fun idle => nomatch idle.1
  | settle h =>
    by_cases unasked : l.asking = 0
    · rw [step_settle_unasked unasked]
      exact steady
    · have unread := Option.not_isSome_iff_eq_none.1 fun held => firm ⟨unasked, held⟩
      have shown : l.step (.settle h) = _ := if_neg unasked
      rw [shown]
      cases h with
      | unanswered =>
        exact steady_of_unread (by simpa [displaced] using steady.adrift) unread nofun fun _ => rfl
      | rejected =>
        exact steady_of_unread (by simpa [displaced] using steady.adrift) unread nofun fun _ => rfl
      | accepted =>
        -- No connection was read, so none is displaced.
        exact {
          adrift := by simp [displaced, steady.adrift, unread]
          held := fun k held => ⟨rfl, congrArg (· + 1) (Option.some.inj held).symm⟩
          read := fun _ => rfl
          settled := fun _ => .inl rfl }
  | close => exact steady_of_unread steady.adrift rfl nofun fun idle => nomatch idle.2
  | closed =>
    by_cases unasked : l.closing = 0
    · rw [step_closed_unasked unasked]
      exact steady
    · have unread := Option.not_isSome_iff_eq_none.1 fun held => firm ⟨unasked, held⟩
      have shown : l.step .closed = _ := if_neg unasked
      rw [shown]
      exact steady_of_unread steady.adrift unread nofun fun _ => rfl
  | hangUp k =>
    by_cases held : l.channel.reader = some k
    · rw [step_hangUp held]
      exact steady_of_unread steady.adrift rfl nofun fun _ => rfl
    · have shown : l.step (.hangUp k) = l := by
        simp only [Line.step, held, steady.adrift, List.not_mem_nil, if_false]
      rw [shown]
      exact steady

theorem run (steady : l.Steady) (free : l.SlipFree es) : (l.run es).Steady := by
  induction es generalizing l with
  | nil => exact steady
  | cons e es ih => exact ih (steady.step free.1) free.2

theorem not_truthful_of_closed {k : Nat} (held : l.channel.reader = some k)
    (latest : k + 1 = l.channel.connections) (shut : l.channel.ready = .closed) :
    ¬l.Truthful := by
  intro truthful
  have mem : k ∈ l.readers := List.mem_append_left _ (Option.mem_toList.2 held)
  cases shut.symm.trans (truthful.open_iff.2 ⟨k, mem, latest⟩)

theorem not_truthful (steady : l.Steady) (slips : l.Slips e) : ¬(l.step e).Truthful := by
  cases e with
  | connect m =>
    cases m with
    | noSession =>
      obtain ⟨k, held⟩ := Option.isSome_iff_exists.1 slips
      exact not_truthful_of_closed held (steady.held k held).2 rfl
    | ready url protocols =>
      rw [step_unusable slips.1]
      intro truthful
      cases truthful.closed nofun
  | settle h =>
    obtain ⟨asked, some⟩ := slips
    obtain ⟨k, held⟩ := Option.isSome_iff_exists.1 some
    have latest := (steady.held k held).2
    rw [step_settle asked]
    cases h with
    | unanswered => exact not_truthful_of_closed held latest rfl
    | rejected => exact not_truthful_of_closed held latest rfl
    | accepted =>
      intro truthful
      have single := truthful.single
      simp [readers, Channel.settle, displaced, held] at single
  | close => exact slips.elim
  | closed =>
    obtain ⟨asked, some⟩ := slips
    obtain ⟨k, held⟩ := Option.isSome_iff_exists.1 some
    rw [step_closed asked]
    exact not_truthful_of_closed held (steady.held k held).2 rfl
  | hangUp k => exact slips.elim

end Steady

/-- At most one call waits, and nothing is read meanwhile. -/
def Quiet (l : Line) : Prop := l.Idle ∨ l.channel.reader = none ∧ l.asking + l.closing = 1

namespace Quiet

theorem step (quiet : l.Quiet) (orderly : e.Begins → l.Idle) : (l.step e).Quiet := by
  cases e with
  | connect m =>
    have idle := orderly trivial
    cases m with
    | noSession => exact .inl idle
    | ready url protocols =>
      by_cases unusable : Unusable url protocols
      · rw [step_unusable unusable]
        exact .inl idle
      · rw [step_usable unusable]
        refine .inr ⟨rfl, ?_⟩
        rw [idle.1, idle.2]
  | settle h =>
    by_cases unasked : l.asking = 0
    · rw [step_settle_unasked unasked]
      exact quiet
    · obtain ⟨_, one⟩ := quiet.resolve_left fun idle => unasked idle.1
      rw [step_settle unasked]
      exact .inl ⟨by simp only; omega, by simp only; omega⟩
  | close =>
    have idle := orderly trivial
    refine .inr ⟨rfl, ?_⟩
    simp only [Line.step, idle.1, idle.2]
  | closed =>
    by_cases unasked : l.closing = 0
    · rw [step_closed_unasked unasked]
      exact quiet
    · obtain ⟨_, one⟩ := quiet.resolve_left fun idle => unasked idle.2
      rw [step_closed unasked]
      exact .inl ⟨by simp only; omega, by simp only; omega⟩
  | hangUp k =>
    by_cases held : l.channel.reader = some k
    · have idle := quiet.resolve_right fun waits => nomatch waits.1.symm.trans held
      rw [step_hangUp held]
      exact .inl idle
    · simp only [Line.step, held, if_false]
      split
      · exact quiet
      · exact quiet

theorem run (quiet : l.Quiet) (orderly : l.Orderly es) : (l.run es).Quiet := by
  induction es generalizing l with
  | nil => exact quiet
  | cons e es ih => exact ih (quiet.step orderly.1) orderly.2

theorem idle_of_slips (quiet : l.Quiet) (orderly : e.Begins → l.Idle) (slips : l.Slips e) :
    (l.step e).Idle := by
  cases e with
  | connect m =>
    cases m with
    | noSession => exact orderly trivial
    | ready url protocols =>
      rw [step_unusable slips.1]
      exact slips.2
  | settle h =>
    obtain ⟨unread, _⟩ := quiet.resolve_left fun idle => slips.1 idle.1
    rw [Slips, unread] at slips
    cases slips.2
  | close => exact slips.elim
  | closed =>
    obtain ⟨unread, _⟩ := quiet.resolve_left fun idle => slips.1 idle.2
    rw [Slips, unread] at slips
    cases slips.2
  | hangUp k => exact slips.elim

end Quiet

/-- An orderly run that is truthful whenever no call waits has no slip. -/
theorem slipFree_of_truthful (orderly : Orderly {} es)
    (truthful : ∀ fs, fs <+: es → (run {} fs).Idle → (run {} fs).Truthful) : SlipFree {} es := by
  -- The induction is on the last event: what comes before it is free of slips, so the line that it
  -- meets is steady, and a slip there would show with no call waiting.
  induction es using List.reverseRecOn with
  | nil => trivial
  | append_singleton es e ih =>
    obtain ⟨orderly, begins, _⟩ := along_append.1 orderly
    have free := ih orderly fun fs pre => truthful fs (pre.trans (List.prefix_append _ _))
    refine along_append.2 ⟨free, fun slips => ?_, trivial⟩
    have quiet : (run {} es).Quiet := Quiet.run (.inl ⟨rfl, rfl⟩) orderly
    have shown := truthful (es ++ [e]) (List.prefix_refl _)
    rw [run_append] at shown
    exact (steady_new.run free).not_truthful slips (shown (quiet.idle_of_slips begins slips))

theorem steady_of_truthful (truthful : c.line.Truthful) :
    c.line.Steady where
  adrift := rfl
  held k held := by
    have mem : k ∈ c.line.readers :=
      List.mem_append_left _ (Option.mem_toList.2 held)
    exact ⟨truthful.open_iff.2 ⟨k, mem, truthful.latest k mem⟩, truthful.latest k mem⟩
  read opened := by
    obtain ⟨k, mem, _⟩ := truthful.open_iff.1 opened
    rw [readers, List.append_nil, Option.mem_toList] at mem
    exact Option.isSome_iff_exists.2 ⟨k, mem⟩
  settled _ := Decidable.or_iff_not_imp_left.2 truthful.closed

section Connect

variable {m : Channel.Means}

theorem Steady.connect (steady : c.line.Steady) (firm : ¬c.line.Slips (.connect m))
    (h : Handshake) : (c.connect m h).1.line.Steady := by
  rw [← run_connect]
  refine steady.run ⟨firm, fun slips => ?_, trivial⟩
  cases m with
  | noSession => exact slips.1 rfl
  | ready url protocols =>
    by_cases unusable : Unusable url protocols
    · rw [step_unusable unusable] at slips
      exact slips.1 rfl
    · rw [step_usable unusable] at slips
      cases slips.2

theorem connect_of_slips (slips : c.line.Slips (.connect m)) (h : Handshake) :
    (c.connect m h).1.line = c.line.step (.connect m) := by
  rw [← run_connect]
  refine step_settle_unasked ?_
  cases m with
  | noSession => rfl
  | ready url protocols => rw [step_unusable slips.1]

theorem Steady.hangUp (steady : c.line.Steady) : c.hangUp.line.Steady := by
  cases held : c.reader with
  | none => simpa only [Channel.hangUp, held, Option.isSome_none, Bool.false_eq_true, if_false]
  | some k =>
    rw [Channel.hangUp, held]
    exact steady_of_unread rfl rfl nofun fun _ => rfl

theorem not_slips_of_connected {h : Handshake} (connected : (c.connect m h).2 = .ok true) :
    ¬c.line.Slips (.connect m) := by
  intro slips
  cases m with
  | noSession => cases connected
  | ready url protocols =>
    obtain ⟨f, prepared⟩ := Channel.prepare_unusable (c := c) slips.1
    simp only [Channel.connect, prepared] at connected
    cases connected

theorem connect_closed_iff {h : Handshake} (failed : (c.connect m h).2 ≠ .ok true) :
    (c.connect m h).1.ready = .closed ∧ (c.connect m h).1.reader = none ↔
      ¬c.line.Slips (.connect m) := by
  cases m with
  | noSession => exact (and_iff_right rfl).trans Option.not_isSome_iff_eq_none.symm
  | ready url protocols =>
    by_cases unusable : Unusable url protocols
    · obtain ⟨f, prepared⟩ := Channel.prepare_unusable (c := c) unusable
      simp only [Channel.connect, prepared]
      exact iff_of_false (fun shut => nomatch shut.1) fun firm => firm ⟨unusable, rfl, rfl⟩
    · simp only [Channel.connect, Channel.prepare_usable unusable] at failed ⊢
      cases h with
      | unanswered => exact iff_of_true ⟨rfl, rfl⟩ fun slips => unusable slips.1
      | rejected => exact iff_of_true ⟨rfl, rfl⟩ fun slips => unusable slips.1
      | accepted => exact absurd rfl failed

end Connect

end Line

namespace Workspace

variable {w : Workspace} {c : Clock}

theorem follow_channel (w : Workspace) (c : Clock) (h : Handshake) :
    (w.follow c h).channel = match h with
      | .accepted _ false => w.channel.hangUp
      | _ => w.channel := by
  cases h with
  | unanswered => rfl
  | rejected => rfl
  | accepted frames kept =>
    obtain ⟨control, received⟩ := w.receiveAll_eq c frames
    simp only [follow, received]
    cases kept <;> rfl

theorem connect_channel (w : Workspace) (c : Clock) :
    let m := (w.account.means c.seconds w.socketAddress).2
    ∃ h, (w.connect c).1.channel = (w.channel.connect m h).1 ∨
      (w.channel.connect m h).2 = .ok true ∧
        (w.connect c).1.channel = (w.channel.connect m h).1.hangUp := by
  rcases account : w.account.means c.seconds w.socketAddress with ⟨a, m⟩
  rcases prepared : w.channel.prepare m with ⟨channel, f | _ | o⟩
  · exact ⟨.rejected 0, .inl (by simp only [connect, account, prepared, Channel.connect])⟩
  · exact ⟨.rejected 0, .inl (by simp only [connect, account, prepared, Channel.connect])⟩
  · rcases answered : w.remote.shakeHands o with ⟨r, h⟩
    refine ⟨h, ?_⟩
    simp only [connect, account, prepared, answered, follow_channel, Channel.connect]
    cases h with
    | unanswered => exact .inl rfl
    | rejected => exact .inl rfl
    | accepted frames kept =>
      cases kept with
      | false => exact .inr ⟨rfl, rfl⟩
      | true => exact .inl rfl

/-- A workspace whose channel told the truth has it tell the truth after it connects just if the
account gave something that does not slip. -/
theorem connect_truthful_iff (truthful : w.channel.line.Truthful) :
    (w.connect c).1.channel.line.Truthful ↔
      ¬w.channel.line.Slips
        (.connect (w.account.means c.seconds w.socketAddress).2) := by
  have steady := Line.steady_of_truthful truthful
  obtain ⟨h, same | ⟨opened, hungUp⟩⟩ := connect_channel w c
  · rw [same]
    constructor
    · intro shown slips
      rw [Line.connect_of_slips slips] at shown
      exact steady.not_truthful slips shown
    · intro firm
      exact (steady.connect firm h).truthful ⟨rfl, rfl⟩
  · rw [hungUp]
    have firm := Line.not_slips_of_connected opened
    exact iff_of_true ((steady.connect firm h).hangUp.truthful ⟨rfl, rfl⟩) firm

end Workspace

namespace Line

/-- What the state of a channel says is true whenever no call waits, for calls that overlap in any
way, if no step slips, and the first slip shows at once. In runs of calls one after the other it is
always true just if no step slips. A call that does not connect leaves the state closed and nothing
read just if it does not slip, and the calls of a workspace keep the state true just as far. -/
theorem ready_state_truthful (es : List Event) (c : Channel) (m : Channel.Means) (h : Handshake)
    (w : Workspace) (clock : Clock) :
    (SlipFree {} es → ((run {} es).Idle → (run {} es).Truthful) ∧
      ∀ e, (run {} es).Slips e → ¬(run {} (es ++ [e])).Truthful) ∧
    (Orderly {} es →
      ((∀ fs, fs <+: es → (run {} fs).Idle → (run {} fs).Truthful) ↔ SlipFree {} es)) ∧
    ((c.connect m h).2 ≠ .ok true →
      ((c.connect m h).1.ready = .closed ∧ (c.connect m h).1.reader = none ↔
        ¬c.line.Slips (.connect m))) ∧
    (w.channel.line.Truthful →
      ((w.connect clock).1.channel.line.Truthful ↔
        ¬w.channel.line.Slips
          (.connect (w.account.means clock.seconds w.socketAddress).2))) ∧
    w.close.channel.line.Truthful := by
  refine ⟨fun free => ?_, fun orderly => ?_, connect_closed_iff, Workspace.connect_truthful_iff, ?_⟩
  · have steady := steady_new.run free
    refine ⟨steady.truthful, fun e slips => ?_⟩
    rw [run_append]
    exact steady.not_truthful slips
  · constructor
    · exact slipFree_of_truthful orderly
    · rintro free fs ⟨gs, rfl⟩ idle
      exact (steady_new.run (along_append.1 free).1).truthful idle
  · have closed : w.close.channel.line.Steady :=
      steady_of_unread rfl rfl nofun fun _ => rfl
    exact closed.truthful ⟨rfl, rfl⟩

/-- One of two calls that wait is refused and the connection of the other is read; a connection is
read until the other side hangs up; a refused call leaves a channel closed; a workspace does not
reach its backend. -/
theorem told_between_calls :
    let m : Channel.Means := .ready "ws://host/ws" ["json"]
    let both := run {}
      [.connect m, .connect m, .settle (.rejected 403), .settle (.accepted [] true)]
    let hungUp : List Event := [.connect m, .settle (.accepted [] true), .hangUp 0]
    let w := Workspace.create { (default : Settings) with baseUrl := "http://host" }
      (.memory .empty) .unreachable {}
    (both.channel.ready = .open ∧ both.readers = [0] ∧ both.Truthful) ∧
      (∀ fs, fs <+: hungUp → (run {} fs).Idle → (run {} fs).Truthful) ∧
      (Channel.connect {} m (.rejected 403)).1.reader = none ∧
      (w.connect (.atMillis 0 [])).1.channel.line.Truthful := by
  intro m both hungUp w
  have free : SlipFree {}
      [.connect m, .connect m, .settle (.rejected 403), .settle (.accepted [] true)] := by
    decide +kernel
  have one : Orderly {} hungUp := ⟨fun _ => ⟨rfl, rfl⟩, nofun, nofun, trivial⟩
  have failed : (Channel.connect {} m (.rejected 403)).2.toOption ≠ some true := by decide +kernel
  obtain ⟨overlapping, _⟩ := ready_state_truthful
    [.connect m, .connect m, .settle (.rejected 403), .settle (.accepted [] true)]
    {} m (.rejected 403) w (.atMillis 0 [])
  obtain ⟨_, orderly, failing, workspace, _⟩ := ready_state_truthful hungUp
    {} m (.rejected 403) w (.atMillis 0 [])
  refine ⟨⟨by decide +kernel, by decide +kernel, ?_⟩, ?_, ?_, ?_⟩
  · exact (overlapping free).1 (by decide +kernel)
  · exact (orderly one).2 (by decide +kernel)
  · exact ((failing fun same => failed (congrArg _ same)).2 (by decide +kernel)).2
  · exact (workspace (steady_new.truthful ⟨rfl, rfl⟩)).2 (by decide +kernel)

/-- A workspace whose backend's address has a blank goes on connecting after the call failed, and a
channel that finds no session any more is closed while its connection is read. -/
theorem untrue_after_failed_calls :
    let w := Workspace.create { (default : Settings) with baseUrl := "http://host/a b" }
      (.memory .empty) .unreachable {}
    let l := run {} [.connect (.ready "ws://host/ws" ["json"]), .settle (.accepted [] true),
      .connect .noSession]
    ((w.connect (.atMillis 0 [])).2.toOption = none ∧
      (w.connect (.atMillis 0 [])).1.channel.ready = .connecting) ∧
    l.Idle ∧ l.channel.ready = .closed ∧ l.readers = [0] ∧ ¬l.Truthful := by
  intro w l
  have closed : l.channel.ready = .closed := by decide +kernel
  refine ⟨by decide +kernel, by decide +kernel, closed, by decide +kernel, ?_⟩
  exact Steady.not_truthful_of_closed (k := 0) (by decide +kernel) (by decide +kernel) closed

end Line

end Flowgraph
