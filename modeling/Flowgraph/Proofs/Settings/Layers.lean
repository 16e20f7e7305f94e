import Flowgraph.Settings.Kind
import Mathlib.Data.Option.Basic

namespace Flowgraph.Settings

theorem Setting.text_injective : Function.Injective Setting.text := fun _ _ => Setting.text.inj

theorem Setting.flag_injective : Function.Injective Setting.flag := fun _ _ => Setting.flag.inj

theorem Setting.count_injective : Function.Injective Setting.count := fun _ _ => Setting.count.inj

/-- What a layer says of the setting with a name. -/
def Layer.find? (l : Layer) : String → Option Setting
  | "base_url" => l.baseUrl.map .text
  | "auth_enabled" => l.authEnabled.map .flag
  | "session_key" => l.sessionKey.map .text
  | "secure_page" => l.securePage.map .flag
  | "request_timeout_secs" => l.requestTimeout.map .count
  | "reconnect_interval_ms" => l.reconnectPeriod.map .count
  | "autosave_interval_ms" => l.autosavePeriod.map .count
  | "state_dir" => l.stateDir.map .text
  | "log_level" => l.logLevel.map .text
  | _ => none

def toLayer (s : Settings) : Layer where
  baseUrl := s.baseUrl
  authEnabled := s.authEnabled
  sessionKey := s.sessionKey
  securePage := s.securePage
  requestTimeout := s.requestTimeout
  reconnectPeriod := s.reconnectPeriod
  autosavePeriod := s.autosavePeriod
  stateDir := s.stateDir
  logLevel := s.logLevel

/-- The setting with a name. Only an unknown page has none. -/
def find? (s : Settings) (name : String) : Option Setting := s.toLayer.find? name

namespace Layer

theorem orElse_assoc (p q r : Layer) : (p.orElse q).orElse r = p.orElse (q.orElse r) := by
  simp only [orElse, Option.or_assoc]

@[simp]
theorem find?_orElse (upper lower : Layer) (name : String) :
    (upper.orElse lower).find? name = (upper.find? name).or (lower.find? name) := by
  unfold find?
  split
  case h_10 => rfl
  all_goals exact Option.map_or ..

@[simp]
theorem find?_empty (name : String) : find? {} name = none := by
  unfold find?
  split <;> rfl

theorem eq_of_find? {l l' : Layer} (same : ∀ name ∈ names, l.find? name = l'.find? name) :
    l = l' := by
  have text := Option.map_injective Setting.text_injective
  have flag := Option.map_injective Setting.flag_injective
  have count := Option.map_injective Setting.count_injective
  have baseUrl := text (same "base_url" (by decide))
  have authEnabled := flag (same "auth_enabled" (by decide))
  have sessionKey := text (same "session_key" (by decide))
  have securePage := flag (same "secure_page" (by decide))
  have requestTimeout := count (same "request_timeout_secs" (by decide))
  have reconnectPeriod := count (same "reconnect_interval_ms" (by decide))
  have autosavePeriod := count (same "autosave_interval_ms" (by decide))
  have stateDir := text (same "state_dir" (by decide))
  have logLevel := text (same "log_level" (by decide))
  cases l
  cases l'
  rw [mk.injEq]
  exact ⟨baseUrl, authEnabled, sessionKey, securePage, requestTimeout, reconnectPeriod,
    autosavePeriod, stateDir, logLevel⟩

end Layer

theorem toLayer_injective : Function.Injective toLayer := by
  intro s s' same
  cases s
  cases s'
  simpa only [toLayer, Layer.mk.injEq, Option.some.injEq, mk.injEq] using same

theorem eq_of_find? {s s' : Settings} (same : ∀ name ∈ names, s.find? name = s'.find? name) :
    s = s' :=
  toLayer_injective (Layer.eq_of_find? same)

theorem toLayer_merge (s : Settings) (l : Layer) : (s.merge l).toLayer = l.orElse s.toLayer := by
  simp only [toLayer, merge, Layer.orElse, Option.or_some]

@[simp]
theorem find?_merge (s : Settings) (l : Layer) (name : String) :
    (s.merge l).find? name = (l.find? name).or (s.find? name) := by
  rw [find?, toLayer_merge, Layer.find?_orElse, find?]

theorem merge_merge (s : Settings) (p q : Layer) : (s.merge p).merge q = s.merge (q.orElse p) := by
  apply toLayer_injective
  rw [toLayer_merge, toLayer_merge, toLayer_merge, Layer.orElse_assoc]

end Flowgraph.Settings
