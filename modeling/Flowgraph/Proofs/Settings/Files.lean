import Flowgraph.Proofs.Settings.Layers
import Flowgraph.Settings.Load

namespace Flowgraph

/-- A path ends in a file name of which these letters follow the last point, and others come before
it. -/
def Ends (path letters : String) : Prop :=
  ∃ stem, stem ≠ "" ∧ '.' ∉ letters.toList ∧ fileName? path = some (stem ++ "." ++ letters)

theorem takeWhile_ne_point (cs : List Char) : '.' ∉ cs.takeWhile (· ≠ '.') ∧
    (cs.takeWhile (· ≠ '.') = cs ∨ ∃ rest, cs.takeWhile (· ≠ '.') ++ '.' :: rest = cs) := by
  induction cs with
  | nil => exact ⟨List.not_mem_nil, .inl rfl⟩
  | cons c cs ih =>
    by_cases point : c = '.'
    · subst point
      exact ⟨List.not_mem_nil, .inr ⟨cs, rfl⟩⟩
    · have go : (c :: cs).takeWhile (· ≠ '.') = c :: cs.takeWhile (· ≠ '.') := by simp [point]
      rw [go]
      refine ⟨fun mem => (List.mem_cons.1 mem).elim (Ne.symm point) ih.1, ?_⟩
      rcases ih.2 with all | ⟨rest, parts⟩
      · exact .inl (by rw [all])
      · exact .inr ⟨rest, by rw [List.cons_append, parts]⟩

theorem takeWhile_reverse_eq {letters stem : List Char} (apart : '.' ∉ letters) :
    (stem ++ '.' :: letters).reverse.takeWhile (· ≠ '.') = letters.reverse := by
  rw [List.reverse_append, List.reverse_cons, List.append_assoc, List.takeWhile_append_of_pos]
  · simp
  · intro c mem
    rw [decide_eq_true_eq]
    rintro rfl
    exact apart (List.mem_reverse.1 mem)

theorem extension?_eq_some_iff {path letters : String} :
    extension? path = some letters ↔ Ends path letters := by
  unfold extension? Ends
  cases fileName? path with
  | none => simp
  | some name =>
    simp only [Option.bind_eq_bind, Option.bind_some, Option.some.injEq, ← String.length_toList]
    constructor
    · intro found
      obtain ⟨apart, parts⟩ := takeWhile_ne_point name.toList.reverse
      have length : name.toList.reverse.length = name.toList.length := List.length_reverse
      split at found
      · cases found
      · next long =>
        obtain rfl := Option.some.inj found
        rcases parts with all | ⟨rest, parts⟩
        · rw [all] at long
          omega
        · rw [← parts, List.length_append, List.length_cons] at length
          have whole : name.toList =
              (name.toList.reverse.takeWhile (· ≠ '.') ++ '.' :: rest).reverse := by
            rw [parts, List.reverse_reverse]
          rw [List.reverse_append, List.reverse_cons, List.append_assoc] at whole
          refine ⟨String.ofList rest.reverse, ?_, ?_, ?_⟩
          · rintro none
            have none : rest = [] := by simpa using none
            rw [none, List.length_nil] at length
            omega
          · rwa [String.toList_ofList, List.mem_reverse]
          · refine String.toList_inj.1 (whole.trans ?_)
            simp only [String.toList_append, String.toList_ofList, List.append_assoc]
            rfl
    · rintro ⟨stem, nonempty, apart, rfl⟩
      have some : 0 < stem.toList.length := by
        rw [List.length_pos_iff]
        simpa using nonempty
      have name : (stem ++ "." ++ letters).toList = stem.toList ++ '.' :: letters.toList := by simp
      rw [name, takeWhile_reverse_eq apart, if_neg, List.reverse_reverse, String.ofList_toList]
      rw [List.length_append, List.length_cons, List.length_reverse]
      omega

namespace Settings

theorem Format.ofPath?_eq_some_iff {path : String} {f : Format} :
    ofPath? path = some f ↔ ∃ letters, Ends path letters ∧ (letters, f) ∈
      [("toml", .toml), ("yaml", .yaml), ("yml", .yaml), ("json", Format.json)] := by
  simp only [← extension?_eq_some_iff, ofPath?]
  constructor
  · intro known
    split at known
    case h_5 => cases known
    all_goals
      next extension =>
      cases known
      exact ⟨_, extension, by decide⟩
  · rintro ⟨letters, extension, listed⟩
    simp only [List.mem_cons, Prod.mk.injEq, List.not_mem_nil, or_false] at listed
    rcases listed with ⟨rfl, rfl⟩ | ⟨rfl, rfl⟩ | ⟨rfl, rfl⟩ | ⟨rfl, rfl⟩ <;> simp only [extension]

section Toml

open Toml

theorem kind?_of_declared : ∀ x ∈ declared, kind? x.1 = some x.2 := by decide

theorem declared_of_kind? {name : String} {k : Kind} (known : kind? name = some k) :
    (name, k) ∈ declared := by
  obtain ⟨before, after, split, _⟩ := List.lookup_eq_some_iff.1 known
  rw [split]
  exact List.mem_append_right before List.mem_cons_self

def Kind.Holds : Kind → Setting → Prop
  | .text, .text _ | .path, .text _ | .flag, .flag _ | .count, .count _ => True
  | _, _ => False

theorem Kind.holds_of_accept {k : Kind} {f : Found} {s : Setting} (fits : k.accept f = .ok s) :
    k.Holds s := by
  unfold accept at fits
  split at fits
  case h_4 =>
    split at fits
    · cases fits
      trivial
    · cases fits
  case h_5 => cases fits
  all_goals
    cases fits
    trivial

theorem Layer.find?_put {name : String} {k : Kind} {s : Setting} (known : (name, k) ∈ declared)
    (holds : k.Holds s) (l : Layer) (name' : String) :
    (l.put name s).find? name' = if name = name' then some s else l.find? name' := by
  simp only [declared, List.mem_cons, Prod.mk.injEq, List.not_mem_nil, or_false] at known
  by_cases same : name = name'
  · subst same
    rw [if_pos rfl]
    rcases known with ⟨rfl, rfl⟩ | ⟨rfl, rfl⟩ | ⟨rfl, rfl⟩ | ⟨rfl, rfl⟩ | ⟨rfl, rfl⟩ | ⟨rfl, rfl⟩ |
      ⟨rfl, rfl⟩ | ⟨rfl, rfl⟩ | ⟨rfl, rfl⟩ <;> cases s <;> first | exact holds.elim | rfl
  · rw [if_neg same]
    rcases known with ⟨rfl, rfl⟩ | ⟨rfl, rfl⟩ | ⟨rfl, rfl⟩ | ⟨rfl, rfl⟩ | ⟨rfl, rfl⟩ | ⟨rfl, rfl⟩ |
      ⟨rfl, rfl⟩ | ⟨rfl, rfl⟩ | ⟨rfl, rfl⟩
    all_goals
      cases s <;> first | exact holds.elim | skip
      unfold find?
      split <;> first | rfl | exact absurd rfl same

namespace Layer

/-- What a layer says when it is taken from a table: of each setting what the last member under its
name holds, where all members under the name are of its kind. -/
def TakenFrom (l : Layer) (t : Table) : Prop :=
  ∀ x ∈ declared,
    (∀ m ∈ t, m.name = x.1 → ∃ s, x.2.accept (InToml.found m.item) = .ok s) ∧
    l.find? x.1 = (t.reverse.find? (·.name = x.1)).bind
      fun m => (x.2.accept (InToml.found m.item)).toOption

variable {l l₀ : Layer}

theorem addMember_cases (cs : List Char) (l₀ : Layer) (m : Member Item) :
    (∃ x ∈ declared, m.name = x.1 ∧ (∀ s, x.2.accept (InToml.found m.item) ≠ .ok s) ∧
      ∃ e, InToml.addMember cs l₀ m = .error e) ∨
    ∃ l₁, InToml.addMember cs l₀ m = .ok l₁ ∧ ∀ x ∈ declared,
      if m.name = x.1 then
        ∃ s, x.2.accept (InToml.found m.item) = .ok s ∧ l₁.find? x.1 = some s
      else l₁.find? x.1 = l₀.find? x.1 := by
  cases known : kind? m.name with
  | none =>
    refine .inr ⟨l₀, by rw [InToml.addMember, known], fun x listed => ?_⟩
    have other : m.name ≠ x.1 := by
      intro same
      rw [same, kind?_of_declared x listed] at known
      cases known
    rw [if_neg other]
  | some k =>
    have listed := declared_of_kind? known
    cases fits : k.accept (InToml.found m.item) with
    | error what =>
      refine .inl ⟨_, listed, rfl, fun s ok => ?_, shownAt cs m.place what, ?_⟩
      · cases fits.symm.trans ok
      · simp only [InToml.addMember, known, fits]
    | ok s =>
      refine .inr ⟨l₀.put m.name s, by simp only [InToml.addMember, known, fits], fun x mem => ?_⟩
      rw [find?_put listed (Kind.holds_of_accept fits)]
      by_cases same : m.name = x.1
      · rw [same, kind?_of_declared x mem] at known
        cases known
        rw [if_pos same, if_pos same]
        exact ⟨s, fits, rfl⟩
      · rw [if_neg same, if_neg same]

theorem foldlM_addMember_eq_ok_iff (cs : List Char) (t : Table) :
    t.foldlM (InToml.addMember cs) l₀ = .ok l ↔ ∀ x ∈ declared,
      (∀ m ∈ t, m.name = x.1 → ∃ s, x.2.accept (InToml.found m.item) = .ok s) ∧
      l.find? x.1 = ((t.reverse.find? (·.name = x.1)).bind
        fun m => (x.2.accept (InToml.found m.item)).toOption).or (l₀.find? x.1) := by
  induction t generalizing l₀ with
  | nil =>
    constructor
    · rintro ⟨⟩ x -
      exact ⟨nofun, rfl⟩
    · intro same
      refine congrArg Except.ok (eq_of_find? fun name known => ?_).symm
      obtain ⟨x, mem, rfl⟩ := List.mem_map.1 known
      exact (same x mem).2
  | cons m t ih =>
    simp only [List.forall_mem_cons, List.reverse_cons, List.find?_append, List.find?_singleton,
      List.foldlM_cons]
    obtain ⟨x, listed, named, misfit, e, refused⟩ | ⟨l₁, taken, each⟩ := addMember_cases cs l₀ m
    · rw [refused]
      refine iff_of_false nofun fun all => ?_
      obtain ⟨s, fits⟩ := (all x listed).1.1 named
      exact misfit s fits
    · rw [taken]
      change t.foldlM (InToml.addMember cs) l₁ = _ ↔ _
      refine ih.trans (forall₂_congr fun x listed => ?_)
      have told := each x listed
      by_cases same : m.name = x.1
      · rw [if_pos same] at told
        obtain ⟨s, fits, here⟩ := told
        have head : m.name = x.1 → ∃ s, x.2.accept (InToml.found m.item) = .ok s :=
          fun _ => ⟨s, fits⟩
        rw [and_iff_right head, here]
        refine and_congr_right fun others => ?_
        cases last : t.reverse.find? (·.name = x.1) with
        | some m' =>
          -- A later member under the name counts, and it is of the kind as well.
          have mem' := List.mem_reverse.1 (List.mem_of_find?_eq_some last)
          obtain ⟨s', ok⟩ := others m' mem' (by simpa using List.find?_some last)
          simp [ok, Except.toOption]
        | none => simp [same, fits, Except.toOption]
      · rw [if_neg same] at told
        simp [told, same]

theorem ofToml_eq_ok_iff {text : String} :
    Layer.ofToml text = .ok l ↔ ∃ t, Table.ofText text.toList = .ok t ∧ l.TakenFrom t := by
  simp only [ofToml]
  cases Table.ofText text.toList with
  | error f => simp
  | ok t => simp [foldlM_addMember_eq_ok_iff, TakenFrom]

end Layer

end Toml

theorem mapError_eq_ok_iff {ε ε' α : Type} {f : ε → ε'} {r : Except ε α} {a : α} :
    r.mapError f = .ok a ↔ r = .ok a := by
  cases r <;> simp [Except.mapError]

theorem toOption_eq_some_iff {ε α : Type} {r : Except ε α} {a : α} :
    r.toOption = some a ↔ r = .ok a := by
  cases r <;> simp [Except.toOption]

theorem bind_eq_ok_iff {ε α β : Type} {r : Except ε α} {f : α → Except ε β} {b : β} :
    (r >>= f) = .ok b ↔ ∃ a, r = .ok a ∧ f a = .ok b := by
  cases r <;> simp [bind, Except.bind]

section Yaml

open Yaml

variable {d : Document} {start : Mark} {k : Kind} {path : String} {i : Nat} {l l₀ : Layer}

theorem holds_of_setting {written : Scalar} {s : Setting} (ok : InYaml.setting k written = .ok s) :
    k.Holds s := by
  unfold InYaml.setting at ok
  cases k with
  | text | path =>
    cases ok
    trivial
  | flag =>
    dsimp only at ok
    split at ok
    · cases ok
      trivial
    · cases ok
  | count =>
    dsimp only at ok
    split at ok
    · cases ok
      trivial
    · cases ok

theorem holds_of_value {s : Setting} (ok : InYaml.value d start k path i = .ok (some s)) :
    k.Holds s := by
  obtain ⟨⟨e, mark⟩, -, ok⟩ := bind_eq_ok_iff.1 ok
  cases e with
  | scalar written =>
    obtain ⟨isAbsent, -, ok⟩ := bind_eq_ok_iff.1 ok
    cases isAbsent with
    | true => cases ok
    | false =>
      simp only [Bool.false_eq_true, if_false] at ok
      cases set : InYaml.setting k written with
      | error what =>
        rw [set] at ok
        cases ok
      | ok s' =>
        rw [set] at ok
        cases ok
        exact holds_of_setting set
  | _ => cases ok

/-- A setting stands in a document behind its name. -/
def StandsIn (d : Document) (x : String × Kind) (s : Setting) : Prop :=
  ∃ start i path, InYaml.name d i = .ok (x.1, path) ∧
    InYaml.value d start x.2 path (i + 1) = .ok (some s)

theorem find?_members {fuel : Nat} {seen : List String}
    (read : InYaml.members d start fuel i seen l₀ = .ok l) {x : String × Kind}
    (listed : x ∈ declared) :
    l.find? x.1 = l₀.find? x.1 ∨ ∃ s, l.find? x.1 = some s ∧ StandsIn d x s := by
  induction fuel generalizing i seen l₀ with
  | zero =>
    cases read
    exact .inl rfl
  | succ fuel ih =>
    rw [InYaml.members] at read
    obtain ⟨⟨e, mark⟩, -, read⟩ := bind_eq_ok_iff.1 read
    split at read
    · cases read
      exact .inl rfl
    · obtain ⟨⟨key, path⟩, named, read⟩ := bind_eq_ok_iff.1 read
      cases known : kind? key with
      | none =>
        simp only [known] at read
        obtain ⟨after, -, read⟩ := bind_eq_ok_iff.1 read
        exact ih read
      | some k =>
        simp only [known] at read
        split at read
        · cases read
        · obtain ⟨given, value, read⟩ := bind_eq_ok_iff.1 read
          refine (ih read).elim (fun same => ?_) .inr
          cases given with
          | none => exact .inl same
          | some s =>
            have holds := holds_of_value value
            rw [Option.elim_some, Layer.find?_put (declared_of_kind? known) holds] at same
            by_cases here : key = x.1
            · subst here
              cases known.symm.trans (kind?_of_declared x listed)
              rw [if_pos rfl] at same
              exact .inr ⟨s, same, start, i, path, named, value⟩
            · rw [if_neg here] at same
              exact .inl same

/-- What a layer from YAML says of a setting stands in the only document of the text, behind the
name of the setting. -/
theorem Layer.ofYaml_ok {text : String} (read : Layer.ofYaml text = .ok l) :
    (Document.ofText text).fault = none ∧ (Document.ofText text).isLast = true ∧
      ∀ x ∈ declared, ∀ s, l.find? x.1 = some s → StandsIn (Document.ofText text) x s := by
  obtain ⟨l', root, read⟩ := bind_eq_ok_iff.1 read
  split at read
  · cases read
  · next sound =>
    split at read
    · next last =>
      cases read
      refine ⟨sound, last, fun x listed s found => ?_⟩
      obtain ⟨⟨e, mark⟩, -, root⟩ := bind_eq_ok_iff.1 root
      have empty (l : Layer) (none : l = {}) : l.find? x.1 ≠ some s := by
        rw [none, Layer.find?_empty]
        nofun
      dsimp only at root
      split at root
      · cases root
        exact absurd found (empty _ rfl)
      · rcases find?_members root listed with same | ⟨s', found', stands⟩
        · rw [same] at found
          exact absurd found (empty _ rfl)
        · cases found.symm.trans found'
          exact stands
      · cases root
        exact absurd found (empty _ rfl)
      · cases root
    · cases read

end Yaml

/-- How the text of a file in a format is read as a layer. -/
def Format.Reads (text : String) (l : Layer) : Format → Prop
  | .toml => Layer.ofToml text = .ok l
  | .yaml => Layer.ofYaml text = .ok l
  | .json => Layer.ofJson text = .ok l

/-- A file is read in the format that it is named after. -/
theorem Layer.ofFile_eq_ok_iff {path text : String} {l : Layer} : Layer.ofFile path text = .ok l ↔
    ∃ f, Format.ofPath? path = some f ∧ f.Reads text l := by
  unfold ofFile
  cases Format.ofPath? path with
  | none => simp
  | some f => cases f <;> simp [mapError_eq_ok_iff, Format.Reads]

/-- What a file says of the settings: what its text says in the format that the file is named after,
and nothing if the file is not there. -/
inductive Says : File → Layer → Prop where
  | absent (path : String) : Says (path, none) {}
  | toml {path text : String} {l : Layer} : Ends path "toml" → Layer.ofToml text = .ok l →
    Says (path, some text) l
  | yaml {path text : String} {l : Layer} : Ends path "yaml" ∨ Ends path "yml" →
    Layer.ofYaml text = .ok l → Says (path, some text) l
  | json {path text : String} {l : Layer} : Ends path "json" → Layer.ofJson text = .ok l →
    Says (path, some text) l

theorem says_iff {path text : String} {l : Layer} :
    Says (path, some text) l ↔ Layer.ofFile path text = .ok l := by
  simp only [Layer.ofFile_eq_ok_iff, Format.ofPath?_eq_some_iff]
  constructor
  · intro told
    cases told with
    | toml ends read => exact ⟨.toml, ⟨_, ends, by decide⟩, read⟩
    | yaml ends read =>
      rcases ends with ends | ends
      · exact ⟨.yaml, ⟨_, ends, by decide⟩, read⟩
      · exact ⟨.yaml, ⟨_, ends, by decide⟩, read⟩
    | json ends read => exact ⟨.json, ⟨_, ends, by decide⟩, read⟩
  · rintro ⟨f, ⟨letters, ends, listed⟩, read⟩
    simp only [List.mem_cons, Prod.mk.injEq, List.not_mem_nil, or_false] at listed
    rcases listed with ⟨rfl, rfl⟩ | ⟨rfl, rfl⟩ | ⟨rfl, rfl⟩ | ⟨rfl, rfl⟩
    · exact .toml ends read
    · exact .yaml (.inl ends) read
    · exact .yaml (.inr ends) read
    · exact .json ends read

end Settings

end Flowgraph
