import Flowgraph.Session
import Flowgraph.Storage

namespace Flowgraph

abbrev Header := String × String

/-- A store, the key of the session in it, and whether the user was sent to sign in. Without a key
there never is a session. -/
structure Account where
  storage : Storage
  key : Option String
  signedOut : Bool := false

namespace Account

/-- Forgets the stored session. A store that cannot be changed keeps it. -/
def forget (a : Account) : Account :=
  match a.key with
  | none => a
  | some key => { a with storage := (a.storage.remove key).toOption.getD a.storage }

def redirect (a : Account) : Account := { a with signedOut := true }

/-- The session as stored, if there is a legible one. -/
def stored? (a : Account) : Option Session := do
  let text ← (← (a.storage.get? (← a.key)).toOption)
  Session.ofText? text

/-- The session at a time. One that has ended is forgotten. -/
def current (a : Account) (now : Float) : Account × Option Session :=
  match a.stored? with
  | none => (a, none)
  | some s => if s.isExpired now then (a.forget, none) else (a, some s)

end Account

/-- Whether a character may stand in a header. -/
def isHeaderChar (c : Char) : Bool := c = '\t' || (0x20 ≤ c.toNat && c.toNat ≠ 0x7f)

/-- Whether a text may stand in a header. -/
def isHeaderValue (s : String) : Bool := s.toList.all isHeaderChar

namespace Session

def headers (s : Session) : List Header :=
  match s.credentials? with
  | none => []
  | some (token, authenticator) =>
    if isHeaderValue ("Bearer " ++ token) then
      [("authorization", "Bearer " ++ token), ("authenticator", authenticator)]
    else []

/-- The protocols that a socket offers for a session. An empty name is left out. -/
def protocols (session : Option Session) : List String :=
  "json" :: match session.bind credentials? with
    | none => []
    | some (token, authenticator) =>
      token :: if authenticator = "" then [] else [authenticator]

end Session

def Account.headers (a : Account) (now : Float) : Account × List Header :=
  let (a, session) := a.current now
  (a, ("content-type", "application/json") :: session.elim [] Session.headers)

end Flowgraph
