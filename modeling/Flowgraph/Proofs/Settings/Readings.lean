import Flowgraph.Proofs.Settings.Layers
import Flowgraph.Settings.OfJson

namespace Flowgraph

namespace Json

theorem Document.nullable_of_ne_null {α : Type} {d : Document} (given : d ≠ .null)
    (read : Document → Option α) : nullable read d = (read d).map some := by
  cases d with
  | null => exact absurd rfl given
  | _ => rfl

namespace Fields

def NullAt (fs : Fields) (name : String) : Prop := ∃ f ∈ fs, f.1.text = name ∧ f.2 = .null

variable {fs : Fields} {name : String}

theorem nullAt_iff {o : Option Document} (found : fs.member name = some o) :
    fs.NullAt name ↔ o = some .null := by
  have within : fs.NullAt name ↔ ∃ f ∈ fs.filter (·.1.text = name), f.2 = .null := by
    simp only [NullAt, List.mem_filter, decide_eq_true_eq, and_assoc]
  rw [within]
  unfold member at found
  split at found
  · next none =>
    cases found
    rw [none]
    exact iff_of_false (fun ⟨_, mem, _⟩ => List.not_mem_nil mem) nofun
  · next one =>
    cases found
    simp only [one, List.mem_singleton, exists_eq_left, Option.some.injEq]
  · cases found

section Readers

variable {α β : Type} (read : Document → Option α)

theorem defaulted_eq_some_iff (null : read .null = none) {default a : α} :
    fs.defaulted name default read = some a ↔
      ∃ o, fs.optional name read = some o ∧ o.getD default = a ∧ ¬fs.NullAt name := by
  cases found : fs.member name with
  | none => simp [defaulted, optional, found]
  | some o =>
    rw [nullAt_iff found]
    cases o with
    | none => simp [defaulted, optional, found]
    | some d =>
      by_cases given : d = .null
      · simp [defaulted, found, given, null]
      · simp [defaulted, optional, found, given, Document.nullable_of_ne_null given]

theorem optional_map (fs : Fields) (name : String) (f : α → β) :
    fs.optional name (fun d => (read d).map f) = (fs.optional name read).map (Option.map f) := by
  rw [optional, optional, defaulted, defaulted]
  cases fs.member name with
  | none => rfl
  | some o =>
    cases o with
    | none => rfl
    | some d =>
      by_cases given : d = .null
      · rw [given]
        rfl
      · simp [Document.nullable_of_ne_null given, Option.map_map, Function.comp_def]

theorem optional_map_eq_some_iff {f : α → β} (inj : Function.Injective f) (fs : Fields)
    (name : String) (o : Option α) :
    fs.optional name (fun d => (read d).map f) = some (o.map f) ↔
      fs.optional name read = some o := by
  rw [optional_map, ← Option.map_some]
  exact (Option.map_injective (Option.map_injective inj)).eq_iff

end Readers

end Fields

end Json

open Json

namespace Settings

def Kind.read : Kind → Document → Option Setting
  | .text | .path => fun d => d.string?.map .text
  | .flag => fun d => d.bool?.map .flag
  | .count => fun d => (d.nat? 64).map .count

variable {fs : Fields} {l : Layer}

namespace Layer

/-- What stands in the fields of a record that is read as a layer. -/
structure ReadFrom (l : Layer) (fs : Fields) : Prop where
  baseUrl : fs.optional "base_url" Document.string? = some l.baseUrl
  authEnabled : fs.optional "auth_enabled" Document.bool? = some l.authEnabled
  sessionKey : fs.optional "session_key" Document.string? = some l.sessionKey
  securePage : fs.optional "secure_page" Document.bool? = some l.securePage
  requestTimeout : fs.optional "request_timeout_secs" (Document.nat? 64) = some l.requestTimeout
  reconnectPeriod : fs.optional "reconnect_interval_ms" (Document.nat? 64) = some l.reconnectPeriod
  autosavePeriod : fs.optional "autosave_interval_ms" (Document.nat? 64) = some l.autosavePeriod
  stateDir : fs.optional "state_dir" Document.string? = some l.stateDir
  logLevel : fs.optional "log_level" Document.string? = some l.logLevel

theorem ofFields?_eq_some_iff : ofFields? fs = some l ↔ l.ReadFrom fs := by
  constructor
  · intro read
    simp only [ofFields?, Option.bind_eq_bind, Option.bind_eq_some_iff, Option.some.injEq] at read
    obtain ⟨_, baseUrl, _, authEnabled, _, sessionKey, _, securePage, _, requestTimeout, _,
      reconnectPeriod, _, autosavePeriod, _, stateDir, _, logLevel, rfl⟩ := read
    exact ⟨baseUrl, authEnabled, sessionKey, securePage, requestTimeout, reconnectPeriod,
      autosavePeriod, stateDir, logLevel⟩
  · intro r
    simp only [ofFields?, r.baseUrl, r.authEnabled, r.sessionKey, r.securePage, r.requestTimeout,
      r.reconnectPeriod, r.autosavePeriod, r.stateDir, r.logLevel, Option.bind_eq_bind,
      Option.bind_some]

theorem decode?_object (fs : Fields) : decode? (.object fs) = ofFields? fs := rfl

theorem readFrom_iff :
    l.ReadFrom fs ↔ ∀ x ∈ declared, fs.optional x.1 x.2.read = some (l.find? x.1) := by
  have text := Fields.optional_map_eq_some_iff Document.string? Setting.text_injective fs
  have flag := Fields.optional_map_eq_some_iff Document.bool? Setting.flag_injective fs
  have count := Fields.optional_map_eq_some_iff (Document.nat? 64) Setting.count_injective fs
  simp only [declared, List.forall_mem_cons]
  constructor
  · intro r
    exact ⟨(text _ _).2 r.baseUrl, (flag _ _).2 r.authEnabled, (text _ _).2 r.sessionKey,
      (flag _ _).2 r.securePage, (count _ _).2 r.requestTimeout, (count _ _).2 r.reconnectPeriod,
      (count _ _).2 r.autosavePeriod, (text _ _).2 r.stateDir, (text _ _).2 r.logLevel, nofun⟩
  · rintro ⟨baseUrl, authEnabled, sessionKey, securePage, requestTimeout, reconnectPeriod,
      autosavePeriod, stateDir, logLevel, _⟩
    exact ⟨(text _ _).1 baseUrl, (flag _ _).1 authEnabled, (text _ _).1 sessionKey,
      (flag _ _).1 securePage, (count _ _).1 requestTimeout, (count _ _).1 reconnectPeriod,
      (count _ _).1 autosavePeriod, (text _ _).1 stateDir, (text _ _).1 logLevel⟩

end Layer

/-- Settings are read where a layer is, unless null is written for one that cannot be unknown. -/
theorem decode?_object_iff {base s : Settings} (page : base.securePage = none) :
    base.decode? (.object fs) = some s ↔ ∃ l, Layer.decode? (.object fs) = some l ∧
      base.merge l = s ∧ ∀ name ∈ names, name ≠ "secure_page" → ¬fs.NullAt name := by
  -- Over an unknown page null says as much as nothing.
  have unknown : fs.defaulted "secure_page" base.securePage (Document.nullable Document.bool?) =
      fs.optional "secure_page" Document.bool? := by
    rw [page]
    rfl
  have whole : Document.record? names (.object fs) = some fs := rfl
  simp only [decode?, whole, unknown, Fields.defaulted_eq_some_iff Document.string? rfl,
    Fields.defaulted_eq_some_iff Document.bool? rfl,
    Fields.defaulted_eq_some_iff (Document.nat? 64) rfl, Layer.decode?_object,
    Layer.ofFields?_eq_some_iff, Option.bind_eq_bind, Option.bind_some, Option.bind_eq_some_iff,
    Option.some.injEq]
  constructor
  · rintro ⟨_, ⟨baseUrl, readBase, rfl, givenBase⟩, _, ⟨authEnabled, readAuth, rfl, givenAuth⟩,
      _, ⟨sessionKey, readKey, rfl, givenKey⟩, securePage, readPage,
      _, ⟨requestTimeout, readTimeout, rfl, givenTimeout⟩,
      _, ⟨reconnectPeriod, readReconnect, rfl, givenReconnect⟩,
      _, ⟨autosavePeriod, readAutosave, rfl, givenAutosave⟩,
      _, ⟨stateDir, readDir, rfl, givenDir⟩, _, ⟨logLevel, readLevel, rfl, givenLevel⟩, rfl⟩
    refine ⟨⟨baseUrl, authEnabled, sessionKey, securePage, requestTimeout, reconnectPeriod,
      autosavePeriod, stateDir, logLevel⟩, ⟨readBase, readAuth, readKey, readPage, readTimeout,
      readReconnect, readAutosave, readDir, readLevel⟩, ?_, ?_⟩
    · rw [merge, page, Option.or_none]
    · simp only [names, declared, List.map, List.forall_mem_cons]
      exact ⟨fun _ => givenBase, fun _ => givenAuth, fun _ => givenKey,
        fun other => absurd rfl other, fun _ => givenTimeout, fun _ => givenReconnect,
        fun _ => givenAutosave, fun _ => givenDir, fun _ => givenLevel, nofun⟩
  · rintro ⟨l, r, rfl, given⟩
    refine ⟨_, ⟨_, r.baseUrl, rfl, given _ (by decide) (by decide)⟩,
      _, ⟨_, r.authEnabled, rfl, given _ (by decide) (by decide)⟩,
      _, ⟨_, r.sessionKey, rfl, given _ (by decide) (by decide)⟩, _, r.securePage,
      _, ⟨_, r.requestTimeout, rfl, given _ (by decide) (by decide)⟩,
      _, ⟨_, r.reconnectPeriod, rfl, given _ (by decide) (by decide)⟩,
      _, ⟨_, r.autosavePeriod, rfl, given _ (by decide) (by decide)⟩,
      _, ⟨_, r.stateDir, rfl, given _ (by decide) (by decide)⟩,
      _, ⟨_, r.logLevel, rfl, given _ (by decide) (by decide)⟩, ?_⟩
    rw [merge, page, Option.or_none]

theorem Layer.ofJson_eq_ok_iff {text : String} :
    Layer.ofJson text = .ok l ↔ (Document.ofText? text).bind Layer.decode? = some l := by
  rw [ofJson]
  split
  · next read => rw [read, Except.ok.injEq, Option.some.injEq]
  · next none =>
    rw [none]
    exact iff_of_false nofun nofun

end Settings

end Flowgraph
