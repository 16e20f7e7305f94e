import Flowgraph.Backend.Channel

namespace Flowgraph

namespace Session

/-- The session vouches with a token, under a name of its authenticator. -/
structure Vouches (s : Session) (token name : String) : Prop where
  holds : s.token = some token
  present : token ≠ ""
  named : ∃ a, s.authenticator = some a ∧ a ≠ "" ∧ name = authenticatorName a

variable {s : Session} {token name : String}

theorem credentials?_eq_some_iff : s.credentials? = some (token, name) ↔ s.Vouches token name := by
  unfold credentials?
  simp only [Option.bind_eq_bind, Option.bind_eq_some_iff, Option.filter_eq_some_iff,
    decide_eq_true_eq, Option.some.injEq, Prod.mk.injEq]
  constructor
  · rintro ⟨_, ⟨token, present⟩, a, ⟨authenticator, named⟩, rfl, rfl⟩
    exact ⟨token, present, a, authenticator, named, rfl⟩
  · rintro ⟨token, present, a, authenticator, named, rfl⟩
    exact ⟨_, ⟨token, present⟩, a, ⟨authenticator, named⟩, rfl, rfl⟩

theorem isExpired_eq_false_iff {now : Float} :
    s.isExpired now = false ↔ ∀ b, s.expiration = some b → ¬Float.ofBits b < now := by
  unfold isExpired
  cases s.expiration <;> simp

end Session

def contentType : Header := ("content-type", "application/json")

/-- The headers that carry credentials. -/
def bearer (token name : String) : List Header :=
  [("authorization", "Bearer " ++ token), ("authenticator", name)]

def protocolsOf (token name : String) : List String :=
  "json" :: token :: if name = "" then [] else [name]

theorem bearer_inj {token name token' name' : String}
    (same : bearer token name = bearer token' name') : token = token' ∧ name = name' := by
  simpa [bearer, String.append_right_inj] using same

theorem isHeaderValue_bearer (token : String) :
    isHeaderValue ("Bearer " ++ token) = isHeaderValue token := by
  have bearer : "Bearer ".toList.all isHeaderChar = true := by decide
  rw [isHeaderValue, String.toList_append, List.all_append, bearer, Bool.true_and, isHeaderValue]

theorem Session.headers_eq {s : Session} {token name : String} (vouches : s.Vouches token name) :
    s.headers = if isHeaderValue token then bearer token name else [] := by
  rw [headers, credentials?_eq_some_iff.2 vouches]
  simp only [isHeaderValue_bearer, bearer]

theorem Session.protocols_eq {s : Session} {token name : String} (vouches : s.Vouches token name) :
    protocols (some s) = protocolsOf token name := by
  rw [protocols, Option.bind_some, credentials?_eq_some_iff.2 vouches, protocolsOf]

namespace Account

variable {a : Account} {key : String} {now : Float} {s : Session} {token name url : String}

/-- The session whose record stands under a key and which has not ended at a time. -/
structure Live (a : Account) (key : String) (now : Float) (s : Session) : Prop where
  record : ∃ text, a.storage.get? key = .ok (some text) ∧ Session.ofText? text = some s
  unexpired : ∀ b, s.expiration = some b → ¬Float.ofBits b < now

/-- What a live session vouches with. -/
def Grants (a : Account) (key : String) (now : Float) (token name : String) : Prop :=
  ∃ s, a.Live key now s ∧ s.Vouches token name

theorem stored?_eq_some_iff (keyed : a.key = some key) : a.stored? = some s ↔
    ∃ text, a.storage.get? key = .ok (some text) ∧ Session.ofText? text = some s := by
  unfold stored?
  rw [keyed]
  cases read : a.storage.get? key with
  | error f => simp [read, Except.toOption]
  | ok text => simp [read, Except.toOption, Option.bind_eq_some_iff]

theorem stored?_of_keyless (keyless : a.key = none) : a.stored? = none := by
  rw [stored?, keyless]
  rfl

theorem current_of_absent (absent : a.stored? = none) : a.current now = (a, none) := by
  rw [current, absent]

theorem current_of_expired (stored : a.stored? = some s) (expired : s.isExpired now = true) :
    a.current now = (a.forget, none) := by
  rw [current, stored]
  simp [expired]

theorem current_snd_eq_some_iff (keyed : a.key = some key) :
    (a.current now).2 = some s ↔ a.Live key now s := by
  constructor
  · intro found
    cases stored : a.stored? with
    | none => simp [current_of_absent stored] at found
    | some s' =>
      cases expired : s'.isExpired now with
      | true => simp [current_of_expired stored expired] at found
      | false =>
        simp only [current, stored, expired, Bool.false_eq_true, if_false, Option.some.injEq]
          at found
        subst found
        exact ⟨(stored?_eq_some_iff keyed).1 stored, Session.isExpired_eq_false_iff.1 expired⟩
  · rintro ⟨record, unexpired⟩
    have stored := (stored?_eq_some_iff keyed).2 record
    simp [current, stored, Session.isExpired_eq_false_iff.2 unexpired]

theorem current_fst (a : Account) (now : Float) :
    (a.current now).1 = a ∨ (a.current now).1 = a.forget := by
  unfold current
  split
  · exact .inl rfl
  · split
    · exact .inr rfl
    · exact .inl rfl

theorem headers_eq : a.headers now =
    ((a.current now).1, contentType :: (a.current now).2.elim [] Session.headers) := rfl

theorem means_of_keyless (keyless : a.key = none) :
    a.means now url = (a, .ready url ["json"]) := by
  rw [means, keyless]
  rfl

theorem means_of_keyed (keyed : a.key = some key) : a.means now url = ((a.current now).1,
    match (a.current now).2.filter (·.credentials?.isSome) with
    | none => .noSession
    | some s => .ready url (Session.protocols (some s))) := by
  have usable : a.usable now =
      ((a.current now).1, (a.current now).2.filter (·.credentials?.isSome)) := rfl
  rw [means, keyed, if_neg (by simp), usable]
  cases (a.current now).2.filter (·.credentials?.isSome) <;> rfl

theorem means_fst : (a.means now url).1 = (a.current now).1 := by
  cases keyed : a.key with
  | none => rw [means_of_keyless keyed, current_of_absent (stored?_of_keyless keyed)]
  | some key => rw [means_of_keyed keyed]

theorem canConnect_fst : (a.canConnect now).1 = (a.current now).1 := by
  have given : (a.means now "").1 = (a.current now).1 := means_fst
  rw [← given, canConnect]
  split <;> next looked => rw [looked]

theorem headers_of_keyless (keyless : a.key = none) : a.headers now = (a, [contentType]) := by
  rw [headers, current_of_absent (stored?_of_keyless keyless)]
  rfl

section Keyed

variable (keyed : a.key = some key)

include keyed

theorem grants_iff : a.Grants key now token name ↔
    ∃ s, (a.current now).2 = some s ∧ s.credentials? = some (token, name) := by
  simp only [Grants, current_snd_eq_some_iff keyed, Session.credentials?_eq_some_iff]

theorem headers_of_grants (grants : a.Grants key now token name) : (a.headers now).2 =
    contentType :: if isHeaderValue token then bearer token name else [] := by
  obtain ⟨s, live, vouches⟩ := grants
  rw [headers_eq, (current_snd_eq_some_iff keyed).2 live, Option.elim_some, s.headers_eq vouches]

theorem headers_of_no_grant (none : ∀ token name, ¬a.Grants key now token name) :
    (a.headers now).2 = [contentType] := by
  cases found : (a.current now).2 with
  | none => rw [headers_eq, found, Option.elim_none]
  | some s =>
    cases credentials : s.credentials? with
    | none => rw [headers_eq, found, Option.elim_some, Session.headers, credentials]
    | some c => exact absurd ((grants_iff keyed).2 ⟨s, found, credentials⟩) (none c.1 c.2)

theorem means_of_grants (grants : a.Grants key now token name) :
    (a.means now url).2 = .ready url (protocolsOf token name) := by
  obtain ⟨s, live, vouches⟩ := grants
  have credentials := Session.credentials?_eq_some_iff.2 vouches
  rw [means_of_keyed keyed, (current_snd_eq_some_iff keyed).2 live,
    Option.filter_some_pos (by simp [credentials])]
  exact congrArg (Channel.Means.ready url) (s.protocols_eq vouches)

theorem means_of_no_grant (none : ∀ token name, ¬a.Grants key now token name) :
    (a.means now url).2 = .noSession := by
  rw [means_of_keyed keyed]
  cases found : (a.current now).2 with
  | none => rfl
  | some s =>
    cases credentials : s.credentials? with
    | none => rw [Option.filter_some_neg (by simp [credentials])]
    | some c => exact absurd ((grants_iff keyed).2 ⟨s, found, credentials⟩) (none c.1 c.2)

theorem headers_eq_iff : (a.headers now).2 = contentType :: bearer token name ↔
    a.Grants key now token name ∧ isHeaderValue token = true := by
  constructor
  · intro carried
    by_cases granted : ∃ token name, a.Grants key now token name
    · obtain ⟨token', name', grants⟩ := granted
      rw [headers_of_grants keyed grants, List.cons.injEq] at carried
      cases legal : isHeaderValue token' with
      | false => simp [legal, bearer] at carried
      | true =>
        rw [if_pos legal] at carried
        obtain ⟨rfl, rfl⟩ := bearer_inj carried.2
        exact ⟨grants, legal⟩
    · have none := headers_of_no_grant keyed fun token name grants => granted ⟨token, name, grants⟩
      rw [none] at carried
      cases carried
  · rintro ⟨grants, legal⟩
    rw [headers_of_grants keyed grants, if_pos legal]

end Keyed

theorem headers_cases (a : Account) (now : Float) (keyed : a.key = some key) :
    (a.headers now).2 = [contentType] ∨
      ∃ token name, (a.headers now).2 = contentType :: bearer token name := by
  by_cases granted : ∃ token name, a.Grants key now token name
  · obtain ⟨token, name, grants⟩ := granted
    rw [headers_of_grants keyed grants]
    split
    · exact .inr ⟨token, name, rfl⟩
    · exact .inl rfl
  · exact .inl (headers_of_no_grant keyed fun token name grants => granted ⟨token, name, grants⟩)

theorem means_cases (a : Account) (now : Float) (url : String) (keyed : a.key = some key) :
    (a.means now url).2 = .noSession ∨ ∃ token name,
      a.Grants key now token name ∧ (a.means now url).2 = .ready url (protocolsOf token name) := by
  by_cases granted : ∃ token name, a.Grants key now token name
  · obtain ⟨token, name, grants⟩ := granted
    exact .inr ⟨token, name, grants, means_of_grants keyed grants⟩
  · exact .inl (means_of_no_grant keyed fun token name grants => granted ⟨token, name, grants⟩)

end Account

end Flowgraph
