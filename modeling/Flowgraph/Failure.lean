import Flowgraph.Error
import Flowgraph.Text
import Flowgraph.Text.Quotation

namespace Flowgraph

/-- Why an operation of a client failed. -/
inductive Failure where
  /-- An operation on the graph itself. -/
  | graph (e : GraphError)
  /-- A request without a successful answer: the status of the answer, if one came, and what was
  behind it. -/
  | http (status : Option Nat) (causes : List String)
  | socket (detail : String)
  | unauthorized (detail : String)
  /-- A plan that is not JSON and was not sent. -/
  | invalidPlan (detail : String)
  /-- Text that is not what it should be. -/
  | malformed (detail : String)
  | settings (detail : String)
  /-- Settings in a file whose name does not tell their format. -/
  | unknownFormat (extension : Option String)
  | storage (detail : String)
deriving Repr

namespace Failure

def heading : Failure → String
  | .graph e => e.kind.heading
  | .http .. => "HTTP error: "
  | .socket .. => "WebSocket error: "
  | .unauthorized .. => "Unauthorized: "
  | .invalidPlan .. => "Invalid plan: "
  | .malformed .. => "Serialization error: "
  | .settings .. | .unknownFormat .. => "Configuration error: "
  | .storage .. => "I/O error: "

def detail : Failure → String
  | .graph e => e.detail
  | .http status causes =>
    let outcome := match status with
      | some s => s!"status {s}"
      | none => "no answer"
    String.intercalate ": " (outcome :: causes)
  | .unknownFormat extension =>
    "Unsupported config format: " ++ match extension with
      | some e => "Some(" ++ inQuotes e ++ ")"
      | none => "None"
  | .socket d | .unauthorized d | .invalidPlan d | .malformed d | .settings d | .storage d => d

def message (f : Failure) : String := f.heading ++ f.detail

/-- A character without its case, as far as that gives an ASCII letter: the Kelvin sign is a
capital k. -/
def uncased (c : Char) : Char := if c = '\u212a' then 'k' else c.toLower

/-- Whether a text mentions a word in any case. -/
def speaksOf (word text : String) : Bool := mentions word.toList (text.toList.map uncased)

/-- Whether a text says that a session is not accepted. -/
def namesRejection (text : String) : Bool :=
  speaksOf "unauthorized" text || speaksOf "token expired" text

/-- Whether a failure means that the session is no longer accepted. What the graph says never
does; an answer does by its status or by what is behind it; all else by its wording. -/
def rejectsSession : Failure → Bool
  | .graph _ => false
  | .unauthorized _ => true
  | .http status causes => status = some 401 || causes.any namesRejection
  | f => speaksOf "401" f.message || namesRejection f.message

end Failure

end Flowgraph
