import Flowgraph.Json.Record
import Flowgraph.Proofs.Json.Members
import Flowgraph.Proofs.Json.Spelling
import Mathlib.Data.List.Nodup

namespace Flowgraph.Json

inductive Value.Proper : Value → Prop
  | null : Proper .null
  | bool (b : Bool) : Proper (.bool b)
  | number (n : Number) : Proper (.number n)
  | string (s : String) : Proper (.string s)
  | array {items : List Value} : (∀ v ∈ items, Proper v) → Proper (.array items)
  | object {members : Members} :
    Members.Distinct members → (∀ m ∈ members, Proper m.2) → Proper (.object members)

structure Members.Proper (ms : Members) : Prop where
  distinct : Distinct ms
  values : ∀ m ∈ ms, m.2.Proper

theorem Members.Proper.nil : Members.Proper [] := ⟨.nil, fun _ h => absurd h List.not_mem_nil⟩

section Values

variable (σ : Spelling)

theorem values?_spelled {vs : List Value} (back : ∀ v ∈ vs, (v.spelled σ).value? = some v) :
    Document.values? (Value.spelledItems σ vs) = some vs := by
  induction vs with
  | nil => rfl
  | cons v vs ih =>
    have rest := ih fun w hw => back w (List.mem_cons_of_mem _ hw)
    simp [Value.spelledItems, Document.values?, back v List.mem_cons_self, rest]

theorem members?_spelled {ms : Members} (back : ∀ m ∈ ms, (m.2.spelled σ).value? = some m.2) :
    Document.members? (Value.spelledMembers σ ms) = some ms := by
  induction ms with
  | nil => rfl
  | cons m ms ih =>
    obtain ⟨k, v⟩ := m
    have rest := ih fun n hn => back n (List.mem_cons_of_mem _ hn)
    simp [Value.spelledMembers, Document.members?, back (k, v) List.mem_cons_self, rest]

theorem Value.Proper.value? {v : Value} (h : v.Proper) : (v.spelled σ).value? = some v := by
  induction h with
  | null => rfl
  | bool b => rfl
  | number n => rfl
  | string s => rfl
  | array _ ih => simp [Value.spelled, Document.value?, values?_spelled σ ih]
  | object distinct _ ih =>
    simp [Value.spelled, Document.value?, members?_spelled σ ih, Members.ofList_eq_self distinct]

mutual

theorem proper_of_value? : ∀ {d : Document} {v : Value}, d.value? = some v → v.Proper
  | .null, _, rfl => .null
  | .bool b, _, rfl => .bool b
  | .number n, _, rfl => .number n
  | .string s, _, rfl => .string s
  | .array items, _, read => by
    obtain ⟨vs, items, rfl⟩ := Option.map_eq_some_iff.1 read
    exact .array (proper_of_values? items)
  | .object members, _, read => by
    obtain ⟨ms, members, rfl⟩ := Option.map_eq_some_iff.1 read
    exact .object (.ofList ms) fun m hm => proper_of_members? members m (Members.mem_ofList hm)

theorem proper_of_values? : ∀ {ds : List Document} {vs : List Value},
    Document.values? ds = some vs → ∀ v ∈ vs, v.Proper
  | [], _, rfl => fun _ hv => absurd hv List.not_mem_nil
  | d :: ds, _, read => by
    simp only [Document.values?, Option.bind_eq_bind, Option.bind_eq_some_iff,
      Option.some.injEq] at read
    obtain ⟨v, first, vs, rest, rfl⟩ := read
    exact List.forall_mem_cons.2 ⟨proper_of_value? first, proper_of_values? rest⟩

theorem proper_of_members? : ∀ {fs : Fields} {ms : Members},
    Document.members? fs = some ms → ∀ m ∈ ms, m.2.Proper
  | [], _, rfl => fun _ hm => absurd hm List.not_mem_nil
  | (k, d) :: fs, _, read => by
    simp only [Document.members?, Option.bind_eq_bind, Option.bind_eq_some_iff,
      Option.some.injEq] at read
    obtain ⟨v, first, ms, rest, rfl⟩ := read
    exact List.forall_mem_cons.2 ⟨proper_of_value? first, proper_of_members? rest⟩

end

end Values

/-- A reader that gives back what is written of the things with a property, however its keys are
spelled, and reads nothing but such things. -/
structure Faithful {α : Type} (P : α → Prop) (write : α → Value) (read : Document → Option α) :
    Prop where
  back : ∀ σ a, P a → read ((write a).spelled σ) = some a
  sound : ∀ d a, read d = some a → P a

def IsWord (n : Int) : Prop := -0x8000000000000000 ≤ n ∧ n ≤ 0x7fffffffffffffff

instance (n : Int) : Decidable (IsWord n) := inferInstanceAs (Decidable (_ ∧ _))

namespace Faithful

theorem value : Faithful Value.Proper id Document.value? where
  back σ _ h := h.value? σ
  sound _ _ read := proper_of_value? read

theorem string : Faithful (fun _ => True) Value.string Document.string? where
  back _ _ _ := rfl
  sound _ _ _ := trivial

theorem intWithin (least most : Int) :
    Faithful (fun n => least ≤ n ∧ n ≤ most) Value.ofInt (Document.intWithin? least most) where
  back _ n h := if_pos h
  sound d n read := by
    unfold Document.intWithin? at read
    split at read
    · split at read
      · next h =>
        cases read
        exact h
      · cases read
    · cases read

theorem word : Faithful IsWord Value.ofInt Document.word? := intWithin _ _

theorem nat (bits : Nat) :
    Faithful (· < Nat.pow 2 bits) (fun n : Nat => Value.ofInt n) (Document.nat? bits) where
  back σ n h := by
    have within := (intWithin 0 (Nat.pow 2 bits - 1)).back σ n ⟨by omega, by omega⟩
    rw [Document.nat?, within]
    rfl
  sound d n read := by
    obtain ⟨k, within, rfl⟩ := Option.map_eq_some_iff.1 read
    have bounds := (intWithin 0 (Nat.pow 2 bits - 1)).sound d k within
    omega

section Lists

variable {α : Type} {P : α → Prop} {write : α → Value} {read : Document → Option α}

theorem mapM_spelled {σ : Spelling} {as : List α}
    (back : ∀ a ∈ as, read ((write a).spelled σ) = some a) :
    (Value.spelledItems σ (as.map write)).mapM read = some as := by
  induction as with
  | nil => rfl
  | cons a as ih =>
    have rest := ih fun b hb => back b (List.mem_cons_of_mem _ hb)
    simp [Value.spelledItems, back a List.mem_cons_self, rest]

theorem forall_of_mapM {β : Type} {f : β → Option α} {bs : List β} {as : List α}
    (each : ∀ b a, f b = some a → P a) (ok : bs.mapM f = some as) : ∀ a ∈ as, P a := by
  induction bs generalizing as with
  | nil =>
    cases ok
    exact fun _ ha => absurd ha List.not_mem_nil
  | cons b bs ih =>
    simp only [List.mapM_cons, Option.bind_eq_bind, Option.bind_eq_some_iff, Option.pure_def,
      Option.some.injEq] at ok
    obtain ⟨a, first, as, rest, rfl⟩ := ok
    exact List.forall_mem_cons.2 ⟨each b a first, ih rest⟩

theorem list (F : Faithful P write read) :
    Faithful (fun as => ∀ a ∈ as, P a) (fun as => .array (as.map write))
      (Document.listOf? read) where
  back σ _ h := mapM_spelled fun a ha => F.back σ a (h a ha)
  sound d as ok := by
    obtain ⟨ds, _, ok⟩ := Option.bind_eq_some_iff.1 ok
    exact forall_of_mapM F.sound ok

end Lists

theorem object : Faithful Members.Proper Value.object Document.object? where
  back σ ms h := by
    have read : Document.members? (Value.spelledMembers σ ms) = some ms :=
      members?_spelled σ fun m hm => (h.values m hm).value? σ
    simp [Value.spelled, Document.object?, Document.fields?, read,
      Members.ofList_eq_self h.distinct]
  sound d ms read := by
    simp only [Document.object?, Option.bind_eq_bind, Option.bind_eq_some_iff] at read
    obtain ⟨fs, _, read⟩ := read
    obtain ⟨listed, members, rfl⟩ := Option.map_eq_some_iff.1 read
    exact ⟨.ofList listed, fun m hm => proper_of_members? members m (Members.mem_ofList hm)⟩

section Fields

variable {α : Type} {P : α → Prop} {write : α → Value} {read : Document → Option α} {fs : Fields}
  {name : String}

theorem of_required (F : Faithful P write read) {a : α} (ok : fs.required name read = some a) :
    P a := by
  obtain ⟨m, _, ok⟩ := Option.bind_eq_some_iff.1 ok
  obtain ⟨d, _, ok⟩ := Option.bind_eq_some_iff.1 ok
  exact F.sound d a ok

theorem of_defaulted (F : Faithful P write read) {a default : α} (spare : P default)
    (ok : fs.defaulted name default read = some a) : P a := by
  obtain ⟨m, _, ok⟩ := Option.bind_eq_some_iff.1 ok
  cases m with
  | some d => exact F.sound d a ok
  | none =>
    cases ok
    exact spare

theorem of_optional (F : Faithful P write read) {o : Option α}
    (ok : fs.optional name read = some o) : ∀ a ∈ o, P a := by
  intro a ha
  cases ha
  obtain ⟨m, _, ok⟩ := Option.bind_eq_some_iff.1 ok
  cases m with
  | none => cases ok
  | some d =>
    have ok : Document.nullable read d = some (some a) := ok
    unfold Document.nullable at ok
    split at ok
    · cases ok
    · obtain ⟨b, ok, same⟩ := Option.map_eq_some_iff.1 ok
      cases same
      exact F.sound _ _ ok

end Fields

end Faithful

/-- Members that a record carries along: no keys are repeated at any depth, and none is a name that
the record declares. -/
structure Members.Spare (declared : List String) (ms : Members) : Prop extends
    Members.Proper ms where
  undeclared : ∀ m ∈ ms, m.1 ∉ declared

theorem Members.Spare.nil {declared : List String} : Members.Spare declared [] :=
  ⟨.nil, fun _ hm => absurd hm List.not_mem_nil⟩

theorem keys_of_members? {fs : Fields} {ms : Members} (read : Document.members? fs = some ms) :
    ms.map Prod.fst = fs.map (·.1.text) := by
  induction fs generalizing ms with
  | nil =>
    cases read
    rfl
  | cons f fs ih =>
    simp only [Document.members?, Option.bind_eq_bind, Option.bind_eq_some_iff,
      Option.some.injEq] at read
    obtain ⟨v, _, rest, more, rfl⟩ := read
    rw [List.map_cons, List.map_cons, ih more]

theorem Members.spare_of_others {fs : Fields} {declared : List String} {ms : Members}
    (ok : fs.others declared = some ms) : ms.Spare declared := by
  obtain ⟨listed, members, rfl⟩ := Option.map_eq_some_iff.1 ok
  refine ⟨⟨.ofList listed, fun m hm => ?_⟩, fun m hm named => ?_⟩
  · exact proper_of_members? members m (Members.mem_ofList hm)
  · have key : m.1 ∈ listed.map Prod.fst := List.mem_map_of_mem (Members.mem_ofList hm)
    rw [keys_of_members? members] at key
    obtain ⟨f, kept, same⟩ := List.mem_map.1 key
    have undeclared := (List.mem_filter.1 kept).2
    rw [same, List.contains_iff_mem.2 named] at undeclared
    cases undeclared

theorem filter_spelled (σ : Spelling) (p : String → Bool) (ms : Members) :
    (Value.spelledMembers σ ms).filter (fun f => p f.1.text) =
      Value.spelledMembers σ (ms.filter fun m => p m.1) := by
  induction ms with
  | nil => rfl
  | cons m ms ih =>
    obtain ⟨k, v⟩ := m
    rw [Value.spelledMembers, List.filter_cons, List.filter_cons, ih]
    split <;> rfl

theorem member_spelled (σ : Spelling) {ms : Members} (distinct : ms.Distinct) (name : String) :
    Fields.member (Value.spelledMembers σ ms) name =
      some ((Members.get? name ms).map (Value.spelled σ)) := by
  have found : ms.filter (fun m => m.1 = name) =
      ((Members.get? name ms).map (name, ·)).toList := by
    induction ms with
    | nil => rfl
    | cons m ms ih =>
      obtain ⟨k, v⟩ := m
      obtain ⟨absent, distinct⟩ := List.nodup_cons.1 distinct
      rw [List.filter_cons, ih distinct, Members.get?]
      by_cases same : k = name
      · subst same
        simp [Members.get?_eq_none absent]
      · simp [same]
  rw [Fields.member, filter_spelled σ (· = name), found]
  cases Members.get? name ms <;> rfl

def Members.present (fields : List (String × Option Value)) : Members :=
  fields.filterMap fun f => f.2.map (f.1, ·)

theorem Members.mem_present {fields : List (String × Option Value)} {k : String} {v : Value} :
    (k, v) ∈ Members.present fields ↔ (k, some v) ∈ fields := by
  simp only [Members.present, List.mem_filterMap, Option.map_eq_some_iff, Prod.mk.injEq]
  constructor
  · rintro ⟨⟨_, _⟩, mem, _, rfl, rfl, rfl⟩
    exact mem
  · intro mem
    exact ⟨_, mem, v, rfl, rfl, rfl⟩

theorem Members.present_sublist (fields : List (String × Option Value)) :
    ((Members.present fields).map Prod.fst).Sublist (fields.map Prod.fst) := by
  induction fields with
  | nil => exact .refl _
  | cons f fields ih =>
    obtain ⟨k, v⟩ := f
    cases v with
    | none => exact ih.cons k
    | some v => exact ih.cons_cons k

/-- A record is written as those of its declared fields that are there, in order, and the members
that it carries along. -/
structure Written (declared : List String) (fields : List (String × Option Value))
    (extra : Members) : Prop where
  keys : fields.map Prod.fst = declared
  nodup : declared.Nodup
  spare : extra.Spare declared

namespace Written

variable {declared : List String} {fields : List (String × Option Value)} {extra : Members}
  (σ : Spelling)

theorem keys_present (w : Written declared fields extra) :
    ((Members.present fields).map Prod.fst).Sublist declared :=
  w.keys ▸ Members.present_sublist fields

theorem distinct (w : Written declared fields extra) :
    (Members.present fields ++ extra).Distinct := by
  rw [Members.Distinct, List.map_append, List.nodup_append]
  refine ⟨w.nodup.sublist w.keys_present, w.spare.distinct, ?_⟩
  intro k hk k' hk' same
  obtain ⟨m, hm, rfl⟩ := List.mem_map.1 hk'
  exact w.spare.undeclared m hm (w.keys_present.mem (same ▸ hk))

theorem others (w : Written declared fields extra) :
    Fields.others (Value.spelledMembers σ (Members.present fields ++ extra)) declared =
      some extra := by
  have known : (Members.present fields).filter (fun m => !declared.contains m.1) = [] := by
    refine List.filter_eq_nil_iff.2 fun m hm => ?_
    simpa using w.keys_present.mem (List.mem_map_of_mem hm)
  have carried : extra.filter (fun m => !declared.contains m.1) = extra := by
    refine List.filter_eq_self.2 fun m hm => ?_
    simpa using w.spare.undeclared m hm
  rw [Fields.others, filter_spelled σ (fun k => !declared.contains k), List.filter_append, known,
    carried, List.nil_append, members?_spelled σ fun m hm => (w.spare.values m hm).value? σ,
    Option.map_some, Members.ofList_eq_self w.spare.distinct]

/-- A declared field is found if it is there, and nothing else stands in its place. -/
theorem member (w : Written declared fields extra) {name : String} {v : Option Value}
    (mem : (name, v) ∈ fields) :
    Fields.member (Value.spelledMembers σ (Members.present fields ++ extra)) name =
      some (v.map (Value.spelled σ)) := by
  rw [member_spelled σ w.distinct]
  cases v with
  | some v =>
    have written := List.mem_append_left extra (Members.mem_present.2 mem)
    rw [Members.get?_eq_some_of_mem w.distinct written]
  | none =>
    have absent : name ∉ (Members.present fields ++ extra).map Prod.fst := by
      intro key
      obtain ⟨⟨_, v⟩, written, rfl⟩ := List.mem_map.1 key
      -- It would be a field of that name, or be carried along under a declared one.
      rcases List.mem_append.1 written with field | carried
      · have here := Members.mem_present.1 field
        have nodup : (fields.map Prod.fst).Nodup := w.keys ▸ w.nodup
        cases List.inj_on_of_nodup_map nodup here mem rfl
      · apply w.spare.undeclared _ carried
        rw [← w.keys]
        exact List.mem_map_of_mem mem
    rw [Members.get?_eq_none absent]

section Fields

variable {α : Type} {P : α → Prop} {write : α → Value} {read : Document → Option α}

theorem required (w : Written declared fields extra) (F : Faithful P write read) (name : String)
    (a : α) (ha : P a) (mem : (name, some (write a)) ∈ fields) :
    Fields.required (Value.spelledMembers σ (Members.present fields ++ extra)) name read =
      some a := by
  rw [Fields.required, w.member σ mem]
  exact F.back σ a ha

theorem defaulted (w : Written declared fields extra) (F : Faithful P write read) (name : String)
    (a default : α) (ha : P a) (mem : (name, some (write a)) ∈ fields ∨
      (name, none) ∈ fields ∧ a = default) :
    Fields.defaulted (Value.spelledMembers σ (Members.present fields ++ extra)) name default read =
      some a := by
  rcases mem with mem | ⟨mem, rfl⟩
  · rw [Fields.defaulted, w.member σ mem]
    exact F.back σ a ha
  · rw [Fields.defaulted, w.member σ mem]
    rfl

theorem optional (w : Written declared fields extra) (F : Faithful P write read) (name : String)
    (o : Option α) (ho : ∀ a ∈ o, P a) (present : ∀ a, write a ≠ .null)
    (mem : (name, o.map write) ∈ fields ∨ (name, some ((o.map write).getD .null)) ∈ fields) :
    Fields.optional (Value.spelledMembers σ (Members.present fields ++ extra)) name read =
      some o := by
  have nullable {a : α} (ha : P a) :
      Document.nullable read ((write a).spelled σ) = some (some a) := by
    have back := F.back σ a ha
    have present := present a
    cases written : write a with
    | null => exact absurd written present
    | _ =>
      rw [written] at back
      exact congrArg (Option.map some) back
  cases o with
  | none =>
    rcases mem with mem | mem
    · rw [Fields.optional, Fields.defaulted, w.member σ mem]
      rfl
    · rw [Fields.optional, Fields.defaulted, w.member σ mem]
      rfl
  | some a =>
    have mem : (name, some (write a)) ∈ fields := mem.elim id id
    rw [Fields.optional, Fields.defaulted, w.member σ mem]
    exact nullable (ho a rfl)

end Fields

end Written

end Flowgraph.Json
