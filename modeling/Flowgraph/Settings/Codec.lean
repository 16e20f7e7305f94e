import Flowgraph.Json.Reader
import Flowgraph.Json.Record
import Flowgraph.Settings.Kind

namespace Flowgraph

open Json

namespace Settings

/-- Reads settings; what is missing has the value of the given ones. -/
def decode? (base : Settings) (d : Document) : Option Settings := do
  let fs ← d.record? names
  some {
    baseUrl := ← fs.defaulted "base_url" base.baseUrl Document.string?
    authEnabled := ← fs.defaulted "auth_enabled" base.authEnabled Document.bool?
    sessionKey := ← fs.defaulted "session_key" base.sessionKey Document.string?
    securePage := ← fs.defaulted "secure_page" base.securePage (Document.nullable Document.bool?)
    requestTimeout :=
      ← fs.defaulted "request_timeout_secs" base.requestTimeout (Document.nat? 64)
    reconnectPeriod :=
      ← fs.defaulted "reconnect_interval_ms" base.reconnectPeriod (Document.nat? 64)
    autosavePeriod :=
      ← fs.defaulted "autosave_interval_ms" base.autosavePeriod (Document.nat? 64)
    stateDir := ← fs.defaulted "state_dir" base.stateDir Document.string?
    logLevel := ← fs.defaulted "log_level" base.logLevel Document.string? }

def ofText? (base : Settings) (text : String) : Option Settings :=
  (Document.ofText? text).bind base.decode?

end Settings

namespace Settings.Layer

def ofFields? (fs : Fields) : Option Layer := do
  some {
    baseUrl := ← fs.optional "base_url" Document.string?
    authEnabled := ← fs.optional "auth_enabled" Document.bool?
    sessionKey := ← fs.optional "session_key" Document.string?
    securePage := ← fs.optional "secure_page" Document.bool?
    requestTimeout := ← fs.optional "request_timeout_secs" (Document.nat? 64)
    reconnectPeriod := ← fs.optional "reconnect_interval_ms" (Document.nat? 64)
    autosavePeriod := ← fs.optional "autosave_interval_ms" (Document.nat? 64)
    stateDir := ← fs.optional "state_dir" Document.string?
    logLevel := ← fs.optional "log_level" Document.string? }

/-- Reads a layer. Written as an array it has all fields. -/
def decode? (d : Document) : Option Layer := do
  let fs ← d.record? names
  if d.items?.any (·.length ≠ names.length) then none else ofFields? fs

end Settings.Layer

end Flowgraph
