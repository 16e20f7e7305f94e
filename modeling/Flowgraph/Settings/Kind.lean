import Flowgraph.Settings.Basic
import Flowgraph.Text.Quotation

namespace Flowgraph.Settings

/-- What a setting may hold. -/
inductive Kind where
  | text
  | path
  | flag
  | count
deriving DecidableEq, Repr

/-- The names of the settings in their order, with what they hold. -/
def declared : List (String × Kind) :=
  [("base_url", .text), ("auth_enabled", .flag), ("session_key", .text), ("secure_page", .flag),
    ("request_timeout_secs", .count), ("reconnect_interval_ms", .count),
    ("autosave_interval_ms", .count), ("state_dir", .path), ("log_level", .text)]

def names : List String := declared.map (·.1)

def kind? (name : String) : Option Kind := declared.lookup name

/-- What stands in the place of a setting. -/
inductive Found where
  | text (s : String)
  | integer (n : Int)
  | double (shown : String)
  | flag (b : Bool)
  | nothing
  | list
  | record
deriving DecidableEq, Repr

def Found.describe : Found → String
  | .text s => "string " ++ inQuotes s
  | .integer n => s!"integer {n}"
  | .double shown => "floating point " ++ shown
  | .flag b => s!"boolean {b}"
  | .nothing => "null"
  | .list => "sequence"
  | .record => "map"

def Kind.describe : Kind → String
  | .text => "a string"
  | .path => "a path"
  | .flag => "a boolean"
  | .count => "a natural number"

/-- What is said of a thing that is not what it should be. -/
def misfit (found : Found) (expected : String) : String :=
  "invalid type: " ++ found.describe ++ ", expected " ++ expected

/-- What is said of a setting that is given twice. -/
def repeated (name : String) : String := "duplicate field " ++ name

/-- What is said of settings that are written as a list of another length. -/
def wrongLength (n : Nat) : String := s!"invalid length {n}, expected settings with 9 elements"

def wholeName : String := "settings"

/-- The value of a setting. -/
inductive Setting where
  | text (s : String)
  | flag (b : Bool)
  | count (n : Nat)
deriving DecidableEq, Repr

/-- The setting that a thing found stands for, if it fits. -/
def Kind.accept (k : Kind) (found : Found) : Except String Setting :=
  match k, found with
  | .text, .text s | .path, .text s => .ok (.text s)
  | .flag, .flag b => .ok (.flag b)
  | .count, .integer n =>
    if 0 ≤ n then .ok (.count n.toNat) else .error (misfit found k.describe)
  | _, _ => .error (misfit found k.describe)

/-- Puts a setting into a layer by its name. -/
def Layer.put (l : Layer) (name : String) (s : Setting) : Layer :=
  match name, s with
  | "base_url", .text s => { l with baseUrl := some s }
  | "auth_enabled", .flag b => { l with authEnabled := some b }
  | "session_key", .text s => { l with sessionKey := some s }
  | "secure_page", .flag b => { l with securePage := some b }
  | "request_timeout_secs", .count n => { l with requestTimeout := some n }
  | "reconnect_interval_ms", .count n => { l with reconnectPeriod := some n }
  | "autosave_interval_ms", .count n => { l with autosavePeriod := some n }
  | "state_dir", .text s => { l with stateDir := some s }
  | "log_level", .text s => { l with logLevel := some s }
  | _, _ => l

end Flowgraph.Settings
