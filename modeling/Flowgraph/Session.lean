import Flowgraph.Json.Printer
import Flowgraph.Json.Reader
import Flowgraph.Json.Record
import Flowgraph.Text

namespace Flowgraph

open Json

/-- A stored session. -/
structure Session where
  authenticator : Option String := none
  uid : Option String := none
  token : Option String := none
  /-- When the session ends, in seconds since the epoch, as the bits of a double. -/
  expiration : Option UInt64 := none
  /-- Members that are kept and not interpreted. -/
  extra : Members := []
deriving Inhabited, Repr

/-- The short name of an authenticator that a backend is told. -/
def authenticatorName (authenticator : String) : String :=
  if mentions "google".toList authenticator.toList then "google" else ""

namespace Json

/-- The bits of the double next to a number. -/
def Number.toBits : Number → UInt64
  | .int n =>
    let f := (UInt64.ofNat n.natAbs).toFloat
    (if n < 0 then -f else f).toBits
  | .float bits => bits

def Document.double? : Document → Option UInt64
  | .number n => some n.toBits
  | _ => none

end Json

namespace Session

def declared : List String := ["authenticator", "uid", "token", "expiration"]

def encode (s : Session) : Value :=
  let text (t : Option String) : Value := t.elim .null .string
  .object ([("authenticator", text s.authenticator), ("uid", text s.uid), ("token", text s.token),
    ("expiration", s.expiration.elim .null fun b => .number (.float b))] ++ s.extra)

def decode? (d : Document) : Option Session := do
  let fs ← d.fields?
  some {
    authenticator := ← fs.optional "authenticator" Document.string?
    uid := ← fs.optional "uid" Document.string?
    token := ← fs.optional "token" Document.string?
    expiration := ← fs.optional "expiration" Document.double?
    extra := ← Fields.others fs declared }

def toText (s : Session) : String := s.encode.compact

def ofText? (text : String) : Option Session := (Document.ofText? text).bind decode?

/-- The token and the name of the authenticator, if the session has both. -/
def credentials? (s : Session) : Option (String × String) := do
  let token ← s.token.filter (· ≠ "")
  let authenticator ← s.authenticator.filter (· ≠ "")
  some (token, authenticatorName authenticator)

/-- Whether a session has ended at a time in seconds. -/
def isExpired (s : Session) (now : Float) : Bool := s.expiration.any fun b => Float.ofBits b < now

end Session

end Flowgraph
