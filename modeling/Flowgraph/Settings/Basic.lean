namespace Flowgraph

/-- The settings of a client. -/
structure Settings where
  baseUrl : String
  authEnabled : Bool
  /-- The key under which the session is stored. -/
  sessionKey : String
  /-- Whether the page around the client came over TLS, where that is known. -/
  securePage : Option Bool
  /-- In seconds. -/
  requestTimeout : Nat
  /-- How often to look after the socket, in milliseconds. -/
  reconnectPeriod : Nat
  /-- How often to save the workflow, in milliseconds. -/
  autosavePeriod : Nat
  /-- The directory for stored state. -/
  stateDir : String
  logLevel : String
deriving DecidableEq, Repr, Inhabited

/-- Settings of which some are given. -/
structure Settings.Layer where
  baseUrl : Option String := none
  authEnabled : Option Bool := none
  sessionKey : Option String := none
  securePage : Option Bool := none
  requestTimeout : Option Nat := none
  reconnectPeriod : Option Nat := none
  autosavePeriod : Option Nat := none
  stateDir : Option String := none
  logLevel : Option String := none
deriving DecidableEq, Repr, Inhabited

/-- The key of the session unless another one is set. -/
def userInfoKey : String := "userInfo"

namespace Settings

/-- The built-in settings of a user with a home directory. -/
def builtIn (home : String) : Settings where
  baseUrl := "http://localhost:6166"
  authEnabled := false
  sessionKey := userInfoKey
  securePage := none
  requestTimeout := 30
  reconnectPeriod := 1000
  autosavePeriod := 1000
  stateDir := home ++ "/.neoscaffold/state"
  logLevel := "info"

def merge (s : Settings) (l : Layer) : Settings where
  baseUrl := l.baseUrl.getD s.baseUrl
  authEnabled := l.authEnabled.getD s.authEnabled
  sessionKey := l.sessionKey.getD s.sessionKey
  securePage := l.securePage.or s.securePage
  requestTimeout := l.requestTimeout.getD s.requestTimeout
  reconnectPeriod := l.reconnectPeriod.getD s.reconnectPeriod
  autosavePeriod := l.autosavePeriod.getD s.autosavePeriod
  stateDir := l.stateDir.getD s.stateDir
  logLevel := l.logLevel.getD s.logLevel

/-- The key of the session, if sessions are used at all. -/
def session? (s : Settings) : Option String := if s.authEnabled then some s.sessionKey else none

def isSecure (s : Settings) : Bool :=
  s.securePage.getD ("https://".toList.isPrefixOf s.baseUrl.toList)

/-- The time between two looks at the socket, at least a millisecond. -/
def reconnectInterval (s : Settings) : Nat := max s.reconnectPeriod 1

/-- The time between two saves, at least a millisecond. -/
def autosaveInterval (s : Settings) : Nat := max s.autosavePeriod 1

/-- A period in microseconds as whole milliseconds of 64 bits. -/
def millisOfMicros (micros : Nat) : Nat := micros / 1000 % 0x10000000000000000

end Settings

namespace Settings.Layer

/-- One layer over another: the upper one counts where it says something. -/
def orElse (upper lower : Layer) : Layer where
  baseUrl := upper.baseUrl.or lower.baseUrl
  authEnabled := upper.authEnabled.or lower.authEnabled
  sessionKey := upper.sessionKey.or lower.sessionKey
  securePage := upper.securePage.or lower.securePage
  requestTimeout := upper.requestTimeout.or lower.requestTimeout
  reconnectPeriod := upper.reconnectPeriod.or lower.reconnectPeriod
  autosavePeriod := upper.autosavePeriod.or lower.autosavePeriod
  stateDir := upper.stateDir.or lower.stateDir
  logLevel := upper.logLevel.or lower.logLevel

end Settings.Layer

end Flowgraph
