import Flowgraph.Account
import Flowgraph.Settings.Basic

namespace Flowgraph

/-- What a socket is doing. -/
inductive ReadyState where
  | connecting
  | open
  | closing
  | closed
deriving DecidableEq, Repr, Inhabited

namespace ReadyState

def ofCode : Nat → ReadyState
  | 0 => .connecting
  | 1 => .open
  | 2 => .closing
  | _ => .closed

def name : ReadyState → String
  | .connecting => "Connecting"
  | .open => "Open"
  | .closing => "Closing"
  | .closed => "Closed"

end ReadyState

/-- The text behind the first occurrence of a mark, or all of it. -/
def afterMark (mark : List Char) (cs : List Char) : List Char :=
  let rec go : List Char → List Char
    | [] => cs
    | c :: rest => if mark.isPrefixOf (c :: rest) then (c :: rest).drop mark.length else go rest
  go cs

/-- The address of the socket of a backend. The scheme of the base address does not count. -/
def socketUrl (base : String) (secure : Bool) : String :=
  (if secure then "wss://" else "ws://") ++
    trimSlashes (String.ofList (afterMark "://".toList base.toList)) ++ "/ws"

def Settings.socketUrl (s : Settings) : String := Flowgraph.socketUrl s.baseUrl s.isSecure

/-- Whether a character may stand in front of the path of an address, the percent sign apart. -/
def isHostChar (c : Char) : Bool :=
  c.isAlphanum || "-._~!$&'()*+,;=:@[]".toList.contains c

/-- What is known of the host of an address after some of its characters. A user name and an
address in brackets may hold percent signs and colons, so both are counted anew behind them. -/
structure HostScan where
  colons : Nat := 0
  opened : Bool := false
  closed : Bool := false
  percent : Bool := false
  /-- Whether a user name has just ended. -/
  named : Bool := false

namespace HostScan

def next? (h : HostScan) (c : Char) : Option HostScan :=
  if c = ':' then
    if h.colons < 8 then some { h with colons := h.colons + 1, named := false } else none
  else if c = '[' then
    if h.percent ∨ h.opened then none else some { h with opened := true, named := false }
  else if c = ']' then
    if !h.opened ∨ h.closed then none
    else some { h with closed := true, colons := 0, percent := false, named := false }
  else if c = '@' then some { h with colons := 0, percent := false, named := true }
  else if c = '%' then some { h with percent := true, named := false }
  else if isHostChar c then some { h with named := false }
  else none

/-- Whether a host may end here: brackets are closed, at most one colon is left, and something
stands behind a user name. -/
def mayEnd (h : HostScan) : Bool := h.opened == h.closed && h.colons ≤ 1 && !h.named && !h.percent

end HostScan

/-- Whether a text names a host, perhaps with a user before it and a number after a colon. -/
def isHost (cs : List Char) : Bool :=
  !cs.isEmpty && (cs.foldlM HostScan.next? {}).any HostScan.mayEnd

/-- Whether a character may stand in a path as it is. -/
def isPathChar (c : Char) : Bool :=
  0x21 ≤ c.toNat && c.toNat ≠ 0x7f && !"<>\x60".toList.contains c

/-- Whether a character may stand in a query as it is. -/
def isQueryChar (c : Char) : Bool :=
  0x21 ≤ c.toNat && c.toNat ≠ 0x7f && !"\"<>".toList.contains c

def addressLimit : Nat := 65534

/-- Whether a socket can be asked for at an address: it names a host, and has legal characters up
to any fragment. -/
def isAddress (url : String) : Bool :=
  let rest := (afterMark "://".toList url.toList).takeWhile (· ≠ '#')
  let host := rest.takeWhile fun c => c ≠ '/' && c ≠ '?'
  let path := rest.dropWhile fun c => c ≠ '/' && c ≠ '?'
  url.utf8ByteSize ≤ addressLimit && isHost host &&
    (path.takeWhile (· ≠ '?')).all isPathChar && (path.dropWhile (· ≠ '?')).all isQueryChar

/-- What a handshake came to. -/
inductive Handshake where
  /-- Nobody answered. -/
  | unanswered (detail : String)
  | rejected (status : Nat)
  /-- The socket opened; then came text frames, and it was kept open or hung up. -/
  | accepted (frames : List String) (kept : Bool)
deriving Repr, Inhabited

/-- The state of a channel: the connection whose frames are delivered, if any, and how many there
were. -/
structure Channel where
  ready : ReadyState := .closed
  reader : Option Nat := none
  connections : Nat := 0
deriving DecidableEq, Repr, Inhabited

namespace Channel

def stopReader (c : Channel) : Channel := { c with reader := none }

/-- What there is to connect with. -/
inductive Means where
  /-- Sessions are required and there is none with a token. -/
  | noSession
  | ready (url : String) (protocols : List String)
deriving Repr

/-- What a handshake asks for. -/
structure Offer where
  url : String
  protocols : String
deriving Repr

/-- Prepares a connection: answers what to ask for, or why nothing can be asked. Without a session
only the state changes. -/
def prepare (c : Channel) : Means → Channel × Except Failure (Option Offer)
  | .noSession => ({ c with ready := .closed }, .ok none)
  | .ready url protocols =>
    let c := { c.stopReader with ready := .connecting }
    let offered := String.intercalate ", " protocols
    if !isAddress url then (c, .error (.socket "invalid address"))
    else if !isHeaderValue offered then (c, .error (.socket "invalid sub-protocol list"))
    else (c, .ok (some ⟨url, offered⟩))

def settle (c : Channel) : Handshake → Channel × Except Failure Bool
  | .unanswered detail => ({ c with ready := .closed }, .error (.socket detail))
  | .rejected status => ({ c with ready := .closed }, .error (.socket s!"HTTP error: {status}"))
  | .accepted .. =>
    ({ ready := .open, reader := some c.connections, connections := c.connections + 1 }, .ok true)

/-- Connects, if there is something to connect with. -/
def connect (c : Channel) (m : Means) (h : Handshake) : Channel × Except Failure Bool :=
  match c.prepare m with
  | (c, .error f) => (c, .error f)
  | (c, .ok none) => (c, .ok false)
  | (c, .ok (some _)) => c.settle h

/-- The other side ends the connection whose frames are delivered. -/
def hangUp (c : Channel) : Channel :=
  if c.reader.isSome then { c.stopReader with ready := .closed } else c

def close (c : Channel) : Channel := { c.stopReader with ready := .closed }

end Channel

namespace Account

/-- The session at a time, if it has credentials. -/
def usable (a : Account) (now : Float) : Account × Option Session :=
  let (a, session) := a.current now
  (a, session.filter (·.credentials?.isSome))

/-- What an account gives to connect with to an address. Without a key no session is required. -/
def means (a : Account) (now : Float) (url : String) : Account × Channel.Means :=
  if a.key.isNone then (a, .ready url (Session.protocols none))
  else match a.usable now with
    | (a, none) => (a, .noSession)
    | (a, some s) => (a, .ready url (Session.protocols (some s)))

/-- Whether a connection would be attempted at a time. -/
def canConnect (a : Account) (now : Float) : Account × Bool :=
  match a.means now "" with
  | (a, .noSession) => (a, false)
  | (a, .ready ..) => (a, true)

end Account

end Flowgraph
