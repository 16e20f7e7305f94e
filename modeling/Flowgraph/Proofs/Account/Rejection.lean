import Flowgraph.Proofs.Account.Credentials
import Flowgraph.Proofs.Backend.Exchange

namespace Flowgraph

open Json

inductive Sent where
  | request (headers : List Header)
  | handshake (o : Channel.Offer)

def Sent.Carries : Sent → Prop
  | .request headers => ∃ h ∈ headers, h.1 = "authorization" ∨ h.1 = "authenticator"
  | .handshake o => o.protocols ≠ "json"

theorem Sent.not_carries_contentType : ¬(Sent.request [contentType]).Carries := by
  simp [Carries, contentType]

theorem Channel.prepare_eq_some_iff {c : Channel} {m : Means} {o : Offer} :
    (c.prepare m).2 = .ok (some o) ↔ ∃ protocols, m = .ready o.url protocols ∧
      o.protocols = String.intercalate ", " protocols ∧
      isAddress o.url = true ∧ isHeaderValue o.protocols = true := by
  constructor
  · intro prepared
    unfold prepare at prepared
    split at prepared
    · cases prepared
    · next url protocols =>
      dsimp only at prepared
      split at prepared
      · cases prepared
      · next address =>
        split at prepared
        · cases prepared
        · next legal =>
          cases prepared
          exact ⟨protocols, rfl, rfl, by simpa using address, by simpa using legal⟩
  · rintro ⟨protocols, rfl, joined, address, legal⟩
    simp only [prepare, ← joined, address, legal, Bool.not_true, Bool.false_eq_true, if_false]

namespace Account

/-- What happens to an account. -/
inductive Move where
  /-- A request goes out. -/
  | request (now : Float)
  /-- A reply to some request comes in, or none will come. -/
  | reply (r : Reply)
  /-- A channel is asked to connect to an address. -/
  | connect (now : Float) (c : Channel) (url : String)
  /-- It is looked up whether a connection would be attempted. -/
  | look (now : Float)
  /-- Somebody else stores a text. -/
  | store (key text : String)

variable {a a' : Account} {key : String} {now : Float}

def move (a : Account) : Move → Account
  | .request now => (a.headers now).1
  | .reply r => (a.receive r).1
  | .connect now _ url => (a.means now url).1
  | .look now => (a.canConnect now).1
  | .store key text => { a with storage := (a.storage.set key text).toOption.getD a.storage }

def run (a : Account) (ms : List Move) : Account := ms.foldl move a

/-- What leaves the client in a move. -/
def sends (a : Account) : Move → List Sent
  | .request now => [.request (a.headers now).2]
  | .connect now c url =>
    match (c.prepare (a.means now url).2).2 with
    | .ok (some o) => [.handshake o]
    | _ => []
  | _ => []

def sent : Account → List Move → List Sent
  | _, [] => []
  | a, m :: ms => a.sends m ++ sent (a.move m) ms

theorem mem_sends_connect {c : Channel} {url : String} {s : Sent} :
    s ∈ a.sends (.connect now c url) ↔
      ∃ o, (c.prepare (a.means now url).2).2 = .ok (some o) ∧ s = .handshake o := by
  rw [sends]
  split
  · next o prepared => simp [prepared]
  · next other =>
    refine iff_of_false List.not_mem_nil ?_
    rintro ⟨o, prepared, _⟩
    exact other o prepared

/-- A move in which the session is looked up. -/
def Move.time? : Move → Option Float
  | .request now | .connect now _ _ | .look now => some now
  | _ => none

theorem move_of_time? {m : Move} (timed : m.time? = some now) : a.move m = (a.current now).1 := by
  cases m <;> cases timed
  · rfl
  · exact means_fst
  · exact canConnect_fst

theorem forget_key (a : Account) : a.forget.key = a.key := by
  unfold forget
  split <;> rfl

theorem receive_fst (a : Account) (r : Reply) :
    (a.receive r).1 = a ∨ (a.receive r).1 = a.forget.redirect := by
  unfold receive
  split
  · exact .inl rfl
  · dsimp only
    split
    · exact .inr rfl
    · exact .inl rfl

/-- All that a move can do to a store, those of others apart. -/
theorem move_cases (a : Account) (m : Move) : (a.move m).key = a.key ∧
    ((∃ key text, m = .store key text) ∨ (a.move m).storage = a.storage ∨
      (a.move m).storage = a.forget.storage) := by
  have looked {now : Float} (timed : m.time? = some now) : (a.move m).key = a.key ∧
      ((a.move m).storage = a.storage ∨ (a.move m).storage = a.forget.storage) := by
    rw [move_of_time? timed]
    rcases a.current_fst now with same | forgot
    · rw [same]
      exact ⟨rfl, .inl rfl⟩
    · rw [forgot]
      exact ⟨a.forget_key, .inr rfl⟩
  cases m with
  | request now => exact (looked rfl).imp_right .inr
  | connect now c url => exact (looked rfl).imp_right .inr
  | look now => exact (looked rfl).imp_right .inr
  | store key text => exact ⟨rfl, .inl ⟨key, text, rfl⟩⟩
  | reply r =>
    rw [move]
    rcases a.receive_fst r with same | forgot
    · rw [same]
      exact ⟨rfl, .inr (.inl rfl)⟩
    · rw [forgot]
      exact ⟨a.forget_key, .inr (.inr rfl)⟩

theorem key_run (a : Account) (ms : List Move) : (a.run ms).key = a.key := by
  induction ms generalizing a with
  | nil => rfl
  | cons m ms ih => exact (ih (a.move m)).trans (a.move_cases m).1

section Memory

variable {texts : SortedMap String String}

theorem forget_keyless (keyless : a.key = none) : a.forget = a := by
  rw [forget, keyless]

theorem forget_memory (memory : a.storage = .memory texts) (keyed : a.key = some key) :
    a.forget.storage = .memory (texts.erase key) := by
  rw [forget, keyed]
  simp [memory, Storage.remove, Except.toOption]

theorem store_memory (memory : a.storage = .memory texts) (text : String) :
    (a.move (.store key text)).storage = .memory (texts.insert key text) := by
  simp [move, memory, Storage.set, Except.toOption]

/-- In memory, nothing happens to what stands under a key unless something else is stored there, but
that a session is forgotten. -/
theorem memory_move (memory : a.storage = .memory texts) (m : Move) :
    ∃ texts', (a.move m).storage = .memory texts' ∧
      ∀ key, (∀ text, m ≠ .store key text) →
        texts'.find? key = texts.find? key ∨ a.key = some key ∧ texts'.find? key = none := by
  rcases (a.move_cases m).2 with ⟨key, text, rfl⟩ | same | forgot
  · refine ⟨_, store_memory memory text, fun key' other => .inl ?_⟩
    rw [SortedMap.find?_insert, if_neg]
    rintro rfl
    exact other text rfl
  · exact ⟨texts, same.trans memory, fun _ _ => .inl rfl⟩
  · cases keyed : a.key with
    | none =>
      rw [forget_keyless keyed] at forgot
      exact ⟨texts, forgot.trans memory, fun _ _ => .inl rfl⟩
    | some key =>
      refine ⟨_, forgot.trans (forget_memory memory keyed), fun key' _ => ?_⟩
      rw [SortedMap.find?_erase]
      by_cases here : key' = key
      · subst here
        exact .inr ⟨rfl, if_pos rfl⟩
      · exact .inl (if_neg here)

theorem memory_run (memory : a.storage = .memory texts) (ms : List Move) :
    ∃ texts', (a.run ms).storage = .memory texts' := by
  induction ms generalizing a texts with
  | nil => exact ⟨texts, memory⟩
  | cons m ms ih =>
    obtain ⟨texts', memory', _⟩ := memory_move memory m
    exact ih memory'

theorem get?_run_of_keyless (memory : a.storage = .memory texts) (keyless : a.key = none)
    {ms : List Move} (alone : ∀ text, .store key text ∉ ms) :
    (a.run ms).storage.get? key = a.storage.get? key := by
  induction ms generalizing a texts with
  | nil => rfl
  | cons m ms ih =>
    obtain ⟨texts', memory', kept⟩ := memory_move memory m
    have keyless' : (a.move m).key = none := (a.move_cases m).1.trans keyless
    have here : (a.move m).storage.get? key = a.storage.get? key := by
      rw [memory', memory]
      rcases kept key fun text same => alone text (same ▸ List.mem_cons_self) with same | forgot
      · exact congrArg Except.ok same
      · exact absurd forgot.1 (by simp [keyless])
    have later := ih memory' keyless' fun text mem => alone text (List.mem_cons_of_mem m mem)
    exact later.trans here

end Memory

structure Recordless (a : Account) : Prop where
  memory : ∃ texts, a.storage = .memory texts
  absent : ∀ key, a.key = some key → a.storage.get? key = .ok none

namespace Recordless

theorem of_keyless {texts : SortedMap String String} (memory : a.storage = .memory texts)
    (keyless : a.key = none) : a.Recordless where
  memory := ⟨texts, memory⟩
  absent key keyed := by simp [keyless] at keyed

theorem move (bare : a.Recordless) {m : Move}
    (alone : ∀ key text, a.key = some key → m ≠ .store key text) : (a.move m).Recordless := by
  obtain ⟨texts, memory⟩ := bare.memory
  obtain ⟨texts', memory', kept⟩ := memory_move memory m
  refine ⟨⟨texts', memory'⟩, fun key keyed => ?_⟩
  rw [(a.move_cases m).1] at keyed
  have absent := bare.absent key keyed
  rw [memory] at absent
  rw [memory']
  rcases kept key fun text => alone key text keyed with same | forgot
  · exact (congrArg Except.ok same).trans absent
  · exact congrArg Except.ok forgot.2

theorem not_grants (bare : a.Recordless) (keyed : a.key = some key) (token name : String) :
    ¬a.Grants key now token name := by
  rintro ⟨s, ⟨⟨text, record, _⟩, _⟩, _⟩
  rw [bare.absent key keyed] at record
  cases record

theorem not_carries (bare : a.Recordless) {m : Move} {s : Sent} (mem : s ∈ a.sends m) :
    ¬s.Carries := by
  cases m with
  | request now =>
    obtain rfl := List.mem_singleton.1 mem
    have headers : (a.headers now).2 = [contentType] := by
      cases keyed : a.key with
      | none => rw [headers_of_keyless keyed]
      | some key => exact headers_of_no_grant keyed (bare.not_grants keyed)
    rw [headers]
    exact Sent.not_carries_contentType
  | connect now c url =>
    obtain ⟨o, prepared, rfl⟩ := mem_sends_connect.1 mem
    obtain ⟨protocols, ready, joined, _⟩ := Channel.prepare_eq_some_iff.1 prepared
    cases keyed : a.key with
    | none =>
      rw [means_of_keyless keyed, Channel.Means.ready.injEq] at ready
      rw [Sent.Carries, joined, ← ready.2]
      decide
    | some key =>
      rw [means_of_no_grant keyed (bare.not_grants keyed)] at ready
      cases ready
  | _ => cases mem

theorem not_carries_of_sent (bare : a.Recordless) {ms : List Move}
    (alone : ∀ key text, a.key = some key → .store key text ∉ ms) {s : Sent}
    (mem : s ∈ a.sent ms) : ¬s.Carries := by
  induction ms generalizing a with
  | nil => cases mem
  | cons m ms ih =>
    rcases List.mem_append.1 mem with here | later
    · exact bare.not_carries here
    · have next : (a.move m).Recordless := bare.move fun key text keyed same =>
        alone key text keyed (same ▸ List.mem_cons_self)
      refine ih next (fun key text keyed stored => ?_) later
      rw [(a.move_cases m).1] at keyed
      exact alone key text keyed (List.mem_cons_of_mem m stored)

end Recordless

theorem recordless_of_rejected {texts : SortedMap String String}
    (memory : a.storage = .memory texts) {r : Reply} {f : Failure} (failed : r.value = .error f)
    (rejects : f.rejectsSession = true) : (a.move (.reply r)).Recordless := by
  have forgot : a.move (.reply r) = a.forget.redirect := by
    rw [move, receive, failed]
    simp [rejects]
  rw [forgot]
  cases keyed : a.key with
  | none =>
    rw [forget_keyless keyed]
    exact .of_keyless memory keyed
  | some key =>
    have storage := forget_memory memory keyed
    refine ⟨⟨_, storage⟩, fun key' keyed' => ?_⟩
    have same : key' = key := by
      have keyed' : a.forget.key = some key' := keyed'
      rw [forget_key, keyed] at keyed'
      exact (Option.some.inj keyed').symm
    have absent : (texts.erase key).find? key' = none := by rw [SortedMap.find?_erase, if_pos same]
    have storage : a.forget.redirect.storage = .memory (texts.erase key) := storage
    rw [storage]
    exact congrArg Except.ok absent

theorem sends_of_keyless {b : Account} (keyless : a.key = none) (keyless' : b.key = none)
    (m : Move) : a.sends m = b.sends m := by
  cases m with
  | request now => rw [sends, sends, headers_of_keyless keyless, headers_of_keyless keyless']
  | connect now c url => rw [sends, sends, means_of_keyless keyless, means_of_keyless keyless']
  | _ => rfl

theorem sent_of_keyless {b : Account} (keyless : a.key = none) (keyless' : b.key = none)
    (ms : List Move) : a.sent ms = b.sent ms := by
  induction ms generalizing a b with
  | nil => rfl
  | cons m ms ih =>
    rw [sent, sent, sends_of_keyless keyless keyless' m]
    exact congrArg _ (ih ((a.move_cases m).1.trans keyless) ((b.move_cases m).1.trans keyless'))

/-- An account that gives away what a live session under a key vouches with, and nothing else. -/
structure Discreet (a : Account) (key : String) : Prop where
  request : ∀ now token name,
    a.sends (.request now) = [.request (contentType :: bearer token name)] ↔
      a.Grants key now token name ∧ isHeaderValue token = true
  bare : ∀ now, a.sends (.request now) = [.request [contentType]] ∨
    ∃ token name, a.sends (.request now) = [.request (contentType :: bearer token name)]
  connect : ∀ now c url s, s ∈ a.sends (.connect now c url) ↔ ∃ token name,
    a.Grants key now token name ∧ isAddress url = true ∧
      let offered := String.intercalate ", " (protocolsOf token name)
      isHeaderValue offered = true ∧ s = .handshake ⟨url, offered⟩
  /-- A record of a session that has ended is removed when it is looked up. -/
  expired : ∀ now text s b, a.storage.get? key = .ok (some text) → Session.ofText? text = some s →
    s.expiration = some b → Float.ofBits b < now →
      ∀ m : Move, m.time? = some now → (a.move m).storage.get? key = .ok none

theorem discreet_of_keyed {texts : SortedMap String String} (memory : a.storage = .memory texts)
    (keyed : a.key = some key) : a.Discreet key where
  request now token name := by
    rw [← headers_eq_iff keyed, sends, List.cons.injEq, Sent.request.injEq]
    simp
  bare now := by
    rcases a.headers_cases now keyed with none | ⟨token, name, some⟩
    · exact .inl (by rw [sends, none])
    · exact .inr ⟨token, name, by rw [sends, some]⟩
  connect now c url s := by
    simp only [mem_sends_connect, Channel.prepare_eq_some_iff]
    constructor
    · rintro ⟨o, ⟨protocols, ready, joined, address, legal⟩, rfl⟩
      rcases a.means_cases now url keyed with none | ⟨token, name, grants, some⟩
      · rw [none] at ready
        cases ready
      · rw [some, Channel.Means.ready.injEq] at ready
        obtain ⟨rfl, rfl⟩ := ready
        refine ⟨token, name, grants, address, ?_, ?_⟩
        · rw [← joined]
          exact legal
        · rw [← joined]
    · rintro ⟨token, name, grants, address, legal, rfl⟩
      have means : (a.means now url).2 = .ready url (protocolsOf token name) :=
        means_of_grants keyed grants
      exact ⟨⟨url, String.intercalate ", " (protocolsOf token name)⟩,
        ⟨protocolsOf token name, means, rfl, address, legal⟩, rfl⟩
  expired now text s b record parsed ends late m timed := by
    have stored : a.stored? = some s := (stored?_eq_some_iff keyed).2 ⟨text, record, parsed⟩
    have expired : s.isExpired now = true := by simp [Session.isExpired, ends, late]
    rw [move_of_time? timed, current_of_expired stored expired, forget_memory memory keyed]
    refine congrArg Except.ok ?_
    rw [SortedMap.find?_erase, if_pos rfl]

end Account

namespace Workspace

theorem follow_line (w : Workspace) (c : Clock) (h : Handshake) :
    (w.follow c h).account = w.account ∧ (w.follow c h).remote = w.remote := by
  cases h with
  | accepted frames kept =>
    obtain ⟨control, received⟩ := w.receiveAll_eq c frames
    simp only [follow, received]
    split <;> exact ⟨rfl, rfl⟩
  | _ => exact ⟨rfl, rfl⟩

/-- Requests and connection attempts of a workspace are moves of its account, and its backend gets
what leaves the client. -/
structure ByMoves (w : Workspace) (c : Clock) : Prop where
  ask : ∀ r, ∃ headers reply remote, w.account.sends (.request c.seconds) = [.request headers] ∧
    w.remote.exchange r headers = (remote, reply) ∧
    (w.ask c r).2 = reply.value ∧ (w.ask c r).1.remote = remote ∧
    (w.ask c r).1.account = w.account.run [.request c.seconds, .reply reply]
  submit : ∀ plan, (w.submit c plan).1 = w ∨ ∃ r, w.submit c plan = w.ask c r
  connect : (w.connect c).1.account =
      w.account.run [.connect c.seconds w.channel w.socketAddress] ∧
    (w.account.sends (.connect c.seconds w.channel w.socketAddress) = [] ∧
        (w.connect c).1.remote = w.remote ∨
      ∃ o, w.account.sends (.connect c.seconds w.channel w.socketAddress) = [.handshake o] ∧
        (w.connect c).1.remote = (w.remote.shakeHands o).1)
  canConnect : (w.canConnect c).1.account = w.account.run [.look c.seconds]

theorem byMoves (w : Workspace) (c : Clock) : w.ByMoves c where
  ask r := ⟨_, _, _, rfl, rfl, Account.receive_snd _ _, rfl, rfl⟩
  submit plan := by
    unfold submit
    split
    · exact .inl rfl
    · next r _ => exact .inr ⟨r, rfl⟩
  connect := by
    simp only [connect, Account.sends]
    cases (w.channel.prepare (w.account.means c.seconds w.socketAddress).2).2 with
    | error f => exact ⟨rfl, .inl ⟨rfl, rfl⟩⟩
    | ok offer =>
      cases offer with
      | none => exact ⟨rfl, .inl ⟨rfl, rfl⟩⟩
      | some o =>
        refine ⟨(follow_line _ c _).1, .inr ⟨o, rfl, (follow_line _ c _).2⟩⟩
  canConnect := rfl

section Runs

variable (settings : Settings) (texts : SortedMap String String) (remote : Backend)
  (registry : ExtensionRegistry) (ms : List Account.Move)

/-- Whatever moves are made on an account with its store in memory: if sessions are not used, what
leaves the client does not depend on the store, and the store stays as it is but for what others
store. If they are used, credentials go out just when a live session is stored. After a reply that
rejects the session none go out, unless somebody stores a session anew. -/
theorem credentials_only_while_live :
    let start (texts : SortedMap String String) : Account :=
      (create settings (.memory texts) remote registry).account
    let a := (start texts).run ms
    (settings.authEnabled = false →
      (∀ texts', (start texts').sent ms = (start texts).sent ms) ∧
      ∀ key, (∀ text, .store key text ∉ ms) →
        a.storage.get? key = (start texts).storage.get? key) ∧
    (settings.authEnabled = true → a.Discreet settings.sessionKey) ∧
    (∀ r f ms', r.value = .error f → f.rejectsSession = true →
      (∀ text, .store settings.sessionKey text ∉ ms') →
        ∀ s ∈ (a.move (.reply r)).sent ms', ¬s.Carries) ∧
    ∀ (w : Workspace) (c : Clock), w.ByMoves c := by
  intro start a
  have key (texts : SortedMap String String) : (start texts).key = settings.session? := rfl
  obtain ⟨texts', memory⟩ := Account.memory_run (a := start texts) rfl ms
  refine ⟨?_, ?_, ?_, byMoves⟩
  · intro off
    have keyless (texts : SortedMap String String) : (start texts).key = none := by
      rw [key, Settings.session?, off, if_neg Bool.false_ne_true]
    constructor
    · intro texts'
      exact Account.sent_of_keyless (keyless texts') (keyless texts) ms
    · intro key alone
      exact Account.get?_run_of_keyless rfl (keyless texts) alone
  · intro on
    refine Account.discreet_of_keyed memory ?_
    rw [Account.key_run, key, Settings.session?, if_pos on]
  · intro r f ms' failed rejects alone s mem
    refine (Account.recordless_of_rejected memory failed rejects).not_carries_of_sent ?_ mem
    intro key' text keyed
    rw [(a.move_cases _).1, Account.key_run, key, Settings.session?] at keyed
    split at keyed
    · cases keyed
      exact alone text
    · cases keyed

end Runs

/-- A request with credentials is answered with status 401. -/
theorem no_credentials_after_401 :
    let settings : Settings := { (default : Settings) with
      authEnabled := true
      sessionKey := "user" }
    let text := (Value.object [("authenticator", .string "google-sign-in"),
      ("token", .string "abc")]).compact
    let start := (create settings (.memory (SortedMap.empty.insert "user" text)) .unreachable
      {}).account
    let answered := (start.run [.request 0]).move (.reply (.answered 401 ""))
    start.sends (.request 0) = [.request (contentType :: bearer "abc" "google")] ∧
      (Failure.http (some 401) []).rejectsSession = true ∧
      ∀ s ∈ answered.sent [.request 1, .connect 2 {} "ws://host/ws"], ¬s.Carries := by
  intro settings text start answered
  have read : (Session.ofText? text).map (fun s => (s.credentials?, s.expiration)) =
      some (some ("abc", "google"), none) := by decide +kernel
  obtain ⟨s, parsed, same⟩ := Option.map_eq_some_iff.1 read
  obtain ⟨credentials, unexpired⟩ := Prod.ext_iff.1 same
  have vouches : s.Vouches "abc" "google" := Session.credentials?_eq_some_iff.1 credentials
  have grants : start.Grants "user" 0 "abc" "google" := by
    refine ⟨s, ⟨⟨text, rfl, parsed⟩, fun b ends => ?_⟩, vouches⟩
    cases unexpired.symm.trans ends
  have failed : (Reply.answered 401 "").value = .error (.http (some 401) []) := rfl
  have rejects : (Failure.http (some 401) []).rejectsSession = true := rfl
  obtain ⟨_, discreet, _⟩ := credentials_only_while_live settings _ .unreachable {} []
  obtain ⟨_, _, after, _⟩ := credentials_only_while_live settings _ .unreachable {} [.request 0]
  have carried := ((discreet rfl).request 0 "abc" "google").2 ⟨grants, by decide⟩
  have later := after _ _ [.request 1, .connect 2 {} "ws://host/ws"] failed rejects (by simp)
  exact ⟨carried, rejects, later⟩

end Workspace

end Flowgraph
