import Flowgraph.Proofs.Json.Legible
import Flowgraph.Proofs.Settings.Files
import Flowgraph.Proofs.Settings.Readings

namespace Flowgraph.Settings

open Json

/-- What an environment says of the setting with a name. Empty values say nothing, and neither
does a word that is no truth value. -/
def Environment.find? (e : Environment) : String → Option Setting
  | "base_url" => (e.url.filter (· ≠ "")).map .text
  | "auth_enabled" => (e.authEnabled.bind flagOf?).map .flag
  | _ => none

@[simp]
theorem Environment.find?_layer (e : Environment) (name : String) :
    e.layer.find? name = e.find? name := by
  unfold Layer.find?
  split
  case h_10 _ base auth _ _ _ _ _ _ _ =>
    unfold find?
    split
    · exact absurd rfl base
    · exact absurd rfl auth
    · rfl
  all_goals rfl

def layerOf (f : File) : Except Failure Layer :=
  match f.2 with
  | some text => Layer.ofFile f.1 text
  | none => .ok {}

theorem layerOf_eq_ok_iff {f : File} {l : Layer} : layerOf f = .ok l ↔ Says f l := by
  obtain ⟨path, text⟩ := f
  cases text with
  | none =>
    constructor
    · rintro ⟨⟩
      exact .absent path
    · rintro ⟨⟩
      rfl
  | some text => exact says_iff.symm

def stack : List Layer → Layer
  | [] => {}
  | l :: ls => (stack ls).orElse l

section Files

variable (home : String) (env : Environment)

theorem load_eq_foldlM (files : List File) : load home env files =
    (files.foldlM (fun s f => (layerOf f).map s.merge) (builtIn home)).map
      fun s => s.merge env.layer := by
  unfold load
  congr 2
  funext s f
  rw [layerOf]
  cases f.2 with
  | none => rfl
  | some text => cases Layer.ofFile f.1 text <;> rfl

theorem foldlM_merge (s : Settings) (files : List File) :
    files.foldlM (fun s f => (layerOf f).map s.merge) s =
      (files.mapM layerOf).map fun ls => s.merge (stack ls) := by
  induction files generalizing s with
  | nil => rfl
  | cons f files ih =>
    rw [List.foldlM_cons, List.mapM_cons]
    cases layerOf f with
    | error e => rfl
    | ok l =>
      have rest := ih (s.merge l)
      simp only [merge_merge] at rest
      refine Eq.trans rest ?_
      cases files.mapM layerOf <;> rfl

theorem load_eq (files : List File) : load home env files =
    (files.mapM layerOf).map fun ls => (builtIn home).merge (env.layer.orElse (stack ls)) := by
  rw [load_eq_foldlM, foldlM_merge]
  cases files.mapM layerOf with
  | error e => rfl
  | ok ls => exact congrArg Except.ok (merge_merge ..)

/-- With two files every setting is looked up in the environment, the second file, the first one
and the built-in settings. -/
theorem load_eq_ok_iff {user project : File} {s : Settings} :
    load home env [user, project] = .ok s ↔
      ∃ u p, Says user u ∧ Says project p ∧ ∀ name ∈ names, s.find? name =
        (env.find? name).or ((p.find? name).or ((u.find? name).or ((builtIn home).find? name))) := by
  have resolved (u p : Layer) (name : String) :
      ((builtIn home).merge (env.layer.orElse (stack [u, p]))).find? name = (env.find? name).or
        ((p.find? name).or ((u.find? name).or ((builtIn home).find? name))) := by
    simp [stack, Option.or_assoc]
  simp only [← layerOf_eq_ok_iff]
  rw [load_eq, List.mapM_cons, List.mapM_cons, List.mapM_nil]
  cases layerOf user with
  | error e => exact iff_of_false nofun fun ⟨_, _, first, _⟩ => nomatch first
  | ok u =>
    cases layerOf project with
    | error e => exact iff_of_false nofun fun ⟨_, _, _, second, _⟩ => nomatch second
    | ok p =>
      constructor
      · intro loaded
        obtain rfl := Except.ok.inj loaded
        exact ⟨u, p, rfl, rfl, fun name _ => resolved u p name⟩
      · rintro ⟨_, _, first, second, each⟩
        cases first
        cases second
        exact congrArg Except.ok
          (eq_of_find? fun name known => (resolved u p name).trans (each name known).symm)

end Files

/-- A JSON object is read as settings exactly if it is read as a layer and null stands for nothing
in it but an unknown page, and the settings are then the built-in ones under that layer, which says
of each setting what stands under its name. So does a layer from TOML or YAML. Two layers over
settings are one, in which the upper layer counts where it says something. So settings are loaded
exactly if the files that are there are read, each in the format that it is named after, and each
setting by itself is then taken from the environment, the project's file, the user's file or the
built-in settings, from the first of these that says something. -/
theorem read_alike_and_layered (home : String) :
    (∀ text (fs : Fields), Document.ofText? text = some (.object fs) →
      (∀ s, ofText? (builtIn home) text = some s ↔ ∃ l, Layer.ofJson text = .ok l ∧
        (builtIn home).merge l = s ∧ ∀ name ∈ names, name ≠ "secure_page" → ¬fs.NullAt name) ∧
      ∀ l, Layer.ofJson text = .ok l ↔
        ∀ x ∈ declared, fs.optional x.1 x.2.read = some (l.find? x.1)) ∧
    (∀ text l, Layer.ofToml text = .ok l ↔
      ∃ t, Toml.Table.ofText text.toList = .ok t ∧ l.TakenFrom t) ∧
    (∀ text l, Layer.ofYaml text = .ok l → ∀ x ∈ declared, ∀ s, l.find? x.1 = some s →
      StandsIn (Yaml.Document.ofText text) x s) ∧
    (∀ (s : Settings) (p q : Layer), (s.merge p).merge q = s.merge (q.orElse p) ∧
      ∀ name, (q.orElse p).find? name = (q.find? name).or (p.find? name)) ∧
    ∀ (env : Environment) (user project : File) (s : Settings),
      load home env [user, project] = .ok s ↔
        ∃ u p, Says user u ∧ Says project p ∧ ∀ name ∈ names, s.find? name =
          (env.find? name).or
            ((p.find? name).or ((u.find? name).or ((builtIn home).find? name))) := by
  refine ⟨?_, fun _ _ => Layer.ofToml_eq_ok_iff, ?_, ?_, ?_⟩
  · intro text fs object
    constructor
    · intro s
      simp only [ofText?, Layer.ofJson_eq_ok_iff, object, Option.bind_some]
      exact decode?_object_iff rfl
    · intro l
      rw [Layer.ofJson_eq_ok_iff, object, Option.bind_some, Layer.decode?_object,
        Layer.ofFields?_eq_some_iff, Layer.readFrom_iff]
  · exact fun text l read => (Layer.ofYaml_ok read).2.2
  · intro s p q
    exact ⟨merge_merge s p q, Layer.find?_orElse q p⟩
  · intro env user project s
    exact load_eq_ok_iff home env

/-- A level beside an unknown page, and settings from a TOML file, a YAML file over it and the
environment over both. -/
theorem read_beside_unknown_page :
    let written : Members := [("log_level", .string "warn"), ("secure_page", .null)]
    let text := (Value.object written).compact
    let toml := "session_key = \"key\"\nlog_level = \"debug\"\nrequest_timeout_secs = 5\n"
    let yaml := "log_level: error\nauth_enabled: false\nbase_url: http://a\n"
    Layer.ofJson text = .ok { logLevel := some "warn" } ∧
      ofText? (builtIn "/h") text = some { builtIn "/h" with logLevel := "warn" } ∧
      load "/h" {} [("/h/user.toml", none), ("project.json", some text)] =
        .ok { builtIn "/h" with logLevel := "warn" } ∧
      load "/h" { url := some "http://b", authEnabled := some "ON" }
        [("/h/user.toml", some toml), ("./project.yml", some yaml)] =
          .ok { builtIn "/h" with
            baseUrl := "http://b"
            authEnabled := true
            sessionKey := "key"
            requestTimeout := 5
            logLevel := "error" } := by
  intro written text toml yaml
  obtain ⟨objects, -, -, -, loads⟩ := read_alike_and_layered "/h"
  have object : Document.ofText? text =
      some (.object (Value.spelledMembers .printed written)) :=
    Value.ofText?_compact (v := .object written) (by decide +kernel)
  obtain ⟨settings, layers⟩ := objects text _ object
  have layer := (layers { logLevel := some "warn" }).2 (by decide +kernel)
  have user : Layer.ofToml toml = .ok {
      sessionKey := some "key", logLevel := some "debug", requestTimeout := some 5 } :=
    toOption_eq_some_iff.1 (by decide +kernel)
  have project : Layer.ofYaml yaml = .ok {
      logLevel := some "error", authEnabled := some false, baseUrl := some "http://a" } :=
    toOption_eq_some_iff.1 (by decide +kernel)
  have ends : Ends "project.json" "json" ∧ Ends "/h/user.toml" "toml" ∧
      Ends "./project.yml" "yml" := by
    simp only [← extension?_eq_some_iff]
    decide +kernel
  refine ⟨layer, (settings _).2 ⟨_, layer, rfl, ?_⟩, ?_, ?_⟩
  · rintro name - other ⟨f, mem, here, null⟩
    rcases List.mem_cons.1 mem with rfl | mem
    · cases null
    · rw [List.mem_singleton.1 mem] at here
      exact other here.symm
  · exact (loads _ _ _ _).2 ⟨{}, _, .absent _, .json ends.1 layer, by decide +kernel⟩
  · exact (loads _ _ _ _).2
      ⟨_, _, .toml ends.2.1 user, .yaml (.inr ends.2.2) project, by decide +kernel⟩

end Flowgraph.Settings
