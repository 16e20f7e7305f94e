import Flowgraph.Proofs.Json.Record

namespace Flowgraph.Json

namespace Value

def members : Value → Members
  | .object ms => ms
  | _ => []

def text (v : Value) : String := v.string?.getD ""

def optional {α : Type} (view : Value → α) : Value → Option α
  | .null => none
  | v => some (view v)

def entries {α : Type} (view : Value → α) (v : Value) : List (String × α) :=
  v.members.map fun m => (m.1, view m.2)

/-- A record of so many fields: an object, or an array of the first of its fields. -/
def isRecord (size : Nat) : Value → Bool
  | .object _ => true
  | .array vs => vs.length ≤ size
  | _ => false

/-- What stands in a field of a record with declared fields. -/
def field? (declared : List String) (name : String) : Value → Option Value
  | .object ms => Members.get? name ms
  | .array vs => vs[declared.idxOf name]?
  | _ => none

/-- What is seen in a field of a record, or a default if the field is not there. -/
def seen {α : Type} (declared : List String) (name : String) (default : α) (view : Value → α)
    (v : Value) : α :=
  (v.field? declared name).elim default view

variable {v : Value} {declared : List String} {name : String}

theorem Proper.field? (proper : v.Proper) {w : Value} (there : v.field? declared name = some w) :
    w.Proper := by
  cases proper with
  | object _ each => exact each (name, w) (Members.mem_of_get? there)
  | array each => exact each w (List.mem_of_getElem? there)
  | _ => cases there

variable (σ : Spelling)

def spelledFields (declared : List String) : Value → Fields
  | .object ms => spelledMembers σ ms
  | .array vs => declared.zipWith (fun name d => (⟨name, true⟩, d)) (spelledItems σ vs)
  | _ => []

theorem length_spelledItems (vs : List Value) : (spelledItems σ vs).length = vs.length := by
  induction vs with
  | nil => rfl
  | cons v vs ih => rw [spelledItems, List.length_cons, List.length_cons, ih]

theorem record?_spelled (declared : List String) (v : Value) :
    (v.spelled σ).record? declared =
      if v.isRecord declared.length then some (v.spelledFields σ declared) else none := by
  cases v with
  | array vs => simp only [spelled, Document.record?, length_spelledItems, isRecord,
      decide_eq_true_eq, spelledFields]
  | _ => rfl

theorem filter_zipWith_of_notMem {names : List String} (absent : name ∉ names)
    (ds : List Document) :
    (names.zipWith (fun name d => ((⟨name, true⟩, d) : Key × Document)) ds).filter
      (fun f => f.1.text = name) = [] := by
  induction names generalizing ds with
  | nil => rfl
  | cons first names ih =>
    obtain ⟨other, absent⟩ := not_or.1 (mt List.mem_cons.2 absent)
    cases ds with
    | nil => rfl
    | cons d ds =>
      rw [List.zipWith_cons_cons, List.filter_cons_of_neg (by simpa using Ne.symm other)]
      exact ih absent ds

theorem filter_zipWith {names : List String} (nodup : names.Nodup) (vs : List Value) :
    (names.zipWith (fun name d => ((⟨name, true⟩, d) : Key × Document)) (spelledItems σ vs)).filter
      (fun f => f.1.text = name) =
        ((if name ∈ names then vs[names.idxOf name]? else none).map
          fun v => (⟨name, true⟩, v.spelled σ)).toList := by
  induction names generalizing vs with
  | nil => rfl
  | cons first names ih =>
    obtain ⟨new, nodup⟩ := List.nodup_cons.1 nodup
    cases vs with
    | nil => simp [spelledItems]
    | cons v vs =>
      rw [spelledItems, List.zipWith_cons_cons]
      by_cases same : first = name
      · subst same
        rw [List.filter_cons_of_pos (by simp), filter_zipWith_of_notMem new]
        simp
      · rw [List.filter_cons_of_neg (by simpa using same), ih nodup]
        simp [List.idxOf_cons_ne _ same, Ne.symm same]

theorem member_spelledFields (proper : v.Proper) (nodup : declared.Nodup)
    (known : name ∈ declared) : (v.spelledFields σ declared).member name =
      some ((v.field? declared name).map (spelled σ)) := by
  cases v with
  | object ms =>
    cases proper with
    | object distinct _ => exact member_spelled σ distinct name
  | array vs =>
    rw [spelledFields, Fields.member, filter_zipWith σ nodup, if_pos known, field?]
    cases vs[declared.idxOf name]? <;> rfl
  | _ => rfl

end Value

/-- What is asked of a value. -/
abbrev Shape := Value → Bool

namespace Shape

def any : Shape := fun _ => true

def text : Shape
  | .string _ => true
  | _ => false

def optional (s : Shape) : Shape
  | .null => true
  | v => s v

/-- An object whose members all have a shape; null is one without members. -/
def entries (s : Shape) : Shape
  | .null => true
  | .object ms => ms.all fun m => s m.2
  | _ => false

/-- A record whose fields, as far as they are there, have their shapes. -/
def record (fields : List (String × Shape)) : Shape := fun v =>
  v.isRecord fields.length && fields.all fun f => (v.field? (fields.map Prod.fst) f.1).all f.2

/-- A reader that accepts the values of a shape and no others, and reads what a view shows. -/
def Reads {α : Type} (s : Shape) (view : Value → α) (read : Document → Option α) : Prop :=
  ∀ σ v, v.Proper → read (v.spelled σ) = if s v then some (view v) else none

namespace Reads

theorem any : Reads any id Document.value? := fun σ _ proper => proper.value? σ

theorem text : Reads text Value.text Document.string? := by
  intro σ v _
  cases v <;> rfl

variable {α : Type} {s : Shape} {view : Value → α} {read : Document → Option α}

theorem toDocument (R : Reads s view read) {v : Value} (proper : v.Proper) :
    read v.toDocument = if s v then some (view v) else none := by
  rw [Spelling.toDocument_eq]
  exact R _ v proper

theorem optional (R : Reads s view read) :
    Reads s.optional (Value.optional view) (Document.nullable read) := by
  intro σ v proper
  have here := R σ v proper
  cases v with
  | null => rfl
  | _ =>
    simp only [Value.spelled] at here
    simp only [Value.spelled, Document.nullable, here]
    exact apply_ite (Option.map some) _ _ _

theorem mapM_entries (R : Reads s view read) {ms : Members} (proper : ∀ m ∈ ms, m.2.Proper) :
    (ms.mapM fun m => (read m.2.toDocument).map (m.1, ·)) =
      if ms.all fun m => s m.2 then some (ms.map fun m => (m.1, view m.2)) else none := by
  induction ms with
  | nil => rfl
  | cons m ms ih =>
    obtain ⟨first, rest⟩ := List.forall_mem_cons.1 proper
    rw [List.mapM_cons, ih rest, R.toDocument first, List.all_cons]
    cases s m.2 with
    | false => rfl
    | true => cases ms.all fun m => s m.2 <;> rfl

end Reads

end Shape

structure Fields.Of (declared : List String) (v : Value) (fs : Fields) : Prop where
  proper : v.Proper
  member : ∃ σ, ∀ name ∈ declared,
    fs.member name = some ((v.field? declared name).map (Value.spelled σ))

namespace Shape.Reads

variable {α β : Type} {s : Shape} {view : Value → α} {read : Document → Option α}
  {declared : List String} {v : Value} {fs : Fields} {name : String}

theorem defaulted (R : Reads s view read) (of : fs.Of declared v) (known : name ∈ declared)
    (default : α) : fs.defaulted name default read =
      if (v.field? declared name).all s then some (v.seen declared name default view)
      else none := by
  obtain ⟨σ, member⟩ := of.member
  rw [Fields.defaulted, member name known, Value.seen]
  cases there : v.field? declared name with
  | none => rfl
  | some w => exact R σ w (of.proper.field? there)

/-- One field of a record is read, then the others are. -/
theorem bind (R : Reads s view read) (of : fs.Of declared v) (known : name ∈ declared)
    {default : α} {rest : α → Option β} {others : Bool} {b : β}
    (later : rest (v.seen declared name default view) = if others then some b else none) :
    (fs.defaulted name default read).bind rest =
      if (v.field? declared name).all s && others then some b else none := by
  rw [R.defaulted of known]
  cases (v.field? declared name).all s with
  | false => rfl
  | true => exact later

theorem record {fields : List (String × Shape)} (nodup : (fields.map Prod.fst).Nodup)
    {body : Fields → Option α}
    (each : ∀ v fs, Fields.Of (fields.map Prod.fst) v fs → body fs =
      if fields.all fun f => (v.field? (fields.map Prod.fst) f.1).all f.2 then some (view v)
      else none) :
    Reads (.record fields) view fun d => (d.record? (fields.map Prod.fst)).bind body := by
  intro σ v proper
  have of : Fields.Of (fields.map Prod.fst) v (v.spelledFields σ (fields.map Prod.fst)) :=
    ⟨proper, σ, fun name known => Value.member_spelledFields σ proper nodup known⟩
  dsimp only
  rw [v.record?_spelled, List.length_map, Shape.record]
  cases v.isRecord fields.length with
  | false => rfl
  | true => exact each v _ of

end Shape.Reads

end Flowgraph.Json
