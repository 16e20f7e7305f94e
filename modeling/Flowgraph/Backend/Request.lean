import Flowgraph.Account
import Flowgraph.Intervention.Command
import Flowgraph.Json.Reader

namespace Flowgraph

open Json

/-- What a backend is asked over HTTP. -/
inductive Request where
  | extensions
  /-- To run a plan, given as text. -/
  | run (plan : String)
  | control (c : Command)
deriving Repr

namespace Request

def method : Request → String
  | .extensions => "GET"
  | .run _ | .control _ => "POST"

/-- The path of a request behind the address of the backend. -/
def path : Request → String
  | .extensions => "/extensions"
  | .run _ => "/prompt"
  | .control c => c.path

def body : Request → String
  | .extensions => ""
  | .run plan => plan
  | .control c => c.encode.compact

/-- The request to run a plan, unless its text is not JSON. -/
def ofPlan (plan : String) : Except Failure Request :=
  match Value.read plan with
  | .ok _ => .ok (.run plan)
  | .error f => .error (.invalidPlan (f.message plan.toList))

end Request

/-- What became of a request. -/
inductive Reply where
  | answered (status : Nat) (body : String)
  /-- No answer came, for these causes. -/
  | unanswered (causes : List String)
deriving Repr, Inhabited

/-- Whether a character is a blank or ends a line. -/
def isWhite (c : Char) : Bool :=
  [0x85, 0xa0, 0x1680, 0x2028, 0x2029, 0x202f, 0x205f, 0x3000].contains c.toNat ||
    (9 ≤ c.toNat && c.toNat ≤ 13) || c = ' ' || (0x2000 ≤ c.toNat && c.toNat ≤ 0x200a)

namespace Reply

def isFailure (status : Nat) : Bool := 400 ≤ status && status < 600

/-- The value of a reply; an empty body is null. -/
def value : Reply → Except Failure Value
  | .unanswered causes => .error (.http none causes)
  | .answered status body =>
    if isFailure status then .error (.http (some status) [])
    else if body.toList.all isWhite then .ok .null
    else match Value.read body with
      | .ok v => .ok v
      | .error f => .error (.malformed (f.message body.toList))

end Reply

/-- Takes a reply in: one that does not accept the session ends it and sends the user to sign
in. -/
def Account.receive (a : Account) (r : Reply) : Account × Except Failure Value :=
  match r.value with
  | .ok v => (a, .ok v)
  | .error f => (if f.rejectsSession then a.forget.redirect else a, .error f)

end Flowgraph
