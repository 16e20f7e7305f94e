import Flowgraph.Proofs.Json.Token

namespace Flowgraph.Json

namespace Value

mutual

def floats : Value → List UInt64
  | .number (.float bits) => [bits]
  | .array items => itemsFloats items
  | .object members => membersFloats members
  | _ => []

def itemsFloats : List Value → List UInt64
  | [] => []
  | v :: rest => floats v ++ itemsFloats rest

def membersFloats : List (String × Value) → List UInt64
  | [] => []
  | (_, v) :: rest => floats v ++ membersFloats rest

end

/-- Doubles of one list and of another are written alike only if they are the same. -/
def PrintApart (as bs : List UInt64) : Prop :=
  ∀ a ∈ as, ∀ b ∈ bs, floatText a = floatText b → a = b

theorem PrintApart.left {as as' bs bs' : List UInt64} (h : PrintApart (as ++ as') (bs ++ bs')) :
    PrintApart as bs :=
  fun a ha b hb => h a (List.mem_append_left _ ha) b (List.mem_append_left _ hb)

theorem PrintApart.right {as as' bs bs' : List UInt64} (h : PrintApart (as ++ as') (bs ++ bs')) :
    PrintApart as' bs' :=
  fun a ha b hb => h a (List.mem_append_right _ ha) b (List.mem_append_right _ hb)

section Marks

/-- What kind of value starts with a character, by one such character. -/
def kindOf (c : Char) : Char := if isNumeric c then '0' else if c = 'f' then 't' else c

def kind : Value → Char
  | .null => 'n'
  | .bool _ => 't'
  | .number _ => '0'
  | .string _ => '"'
  | .array _ => '['
  | .object _ => '\x7b'

theorem chars_start (v : Value) : ∃ c cs, v.chars = c :: cs ∧ kindOf c = v.kind := by
  cases v with
  | null => exact ⟨_, _, rfl, rfl⟩
  | bool b => cases b <;> exact ⟨_, _, rfl, rfl⟩
  | number n =>
    obtain ⟨c, cs, text⟩ := List.exists_cons_of_ne_nil n.text_ne_nil
    have numeric : isNumeric c = true := n.text_numeric c (text ▸ List.mem_cons_self)
    exact ⟨c, cs, text, if_pos numeric⟩
  | string s => exact ⟨_, _, rfl, rfl⟩
  | array items => exact ⟨_, _, rfl, rfl⟩
  | object members => exact ⟨_, _, rfl, rfl⟩

theorem kind_eq {v w : Value} {rest rest' : List Char}
    (same : v.chars ++ rest = w.chars ++ rest') : v.kind = w.kind := by
  obtain ⟨c, cs, text, kind⟩ := chars_start v
  obtain ⟨d, ds, text', kind'⟩ := chars_start w
  rw [text, text'] at same
  rw [← kind, ← kind', (List.cons.inj same).1]

theorem chars_append_ne {v : Value} {c : Char} (mark : c = ']' ∨ c = '\x7d')
    (rest rest' : List Char) : v.chars ++ rest ≠ c :: rest' := by
  intro same
  obtain ⟨d, ds, text, kind⟩ := chars_start v
  rw [text] at same
  rw [(List.cons.inj same).1] at kind
  rcases mark with rfl | rfl <;> cases v <;> simp [kindOf, isNumeric, Value.kind] at kind

end Marks

def more {α : Type} (close : Char) (others : List α → List Char) (rest : List α) : List Char :=
  if rest.isEmpty then [close] else ',' :: others rest

theorem itemsChars_cons (v : Value) (rest : List Value) :
    itemsChars (v :: rest) = v.chars ++ more ']' itemsChars rest := by
  cases rest <;> rfl

theorem membersChars_cons (k : String) (v : Value) (rest : Members) :
    membersChars ((k, v) :: rest) =
      quoted k ++ ':' :: (v.chars ++ more '\x7d' membersChars rest) := by
  cases rest <;> rfl

section More

variable {α : Type} {close : Char} {others : List α → List Char}

theorem ends_more (mark : isNumeric close = false) (list : List α) (rest : List Char) :
    Ends (more close others list ++ rest) := by
  intro c head
  cases list with
  | nil =>
    cases head
    exact mark
  | cons =>
    cases head
    decide

theorem more_append_inj (mark : close ≠ ',') {list list' : List α} {rest rest' : List Char}
    (same : more close others list ++ rest = more close others list' ++ rest') :
    list = [] ∧ list' = [] ∧ rest = rest' ∨ others list ++ rest = others list' ++ rest' := by
  cases list with
  | nil =>
    cases list' with
    | nil => exact .inl ⟨rfl, rfl, (List.cons.inj same).2⟩
    | cons => exact absurd (List.cons.inj same).1 mark
  | cons =>
    cases list' with
    | nil => exact absurd (List.cons.inj same).1.symm mark
    | cons => exact .inr (List.cons.inj same).2

end More

mutual

/-- A value shows where it ends: if two texts start with values and nothing numeric follows, then
the values and the rests are the same. -/
theorem chars_append_inj : ∀ (v w : Value) {rest rest' : List Char},
    PrintApart v.floats w.floats → Ends rest → Ends rest' →
      v.chars ++ rest = w.chars ++ rest' → v = w ∧ rest = rest'
  | .null, w, _, _, _, _, _, same => by
    have kind := kind_eq same
    cases w with
    | null => exact ⟨rfl, List.append_cancel_left same⟩
    | _ => exact absurd kind (by simp [Value.kind])
  | .bool b, w, _, _, _, _, _, same => by
    have kind := kind_eq same
    cases w with
    | bool c =>
      cases b <;> cases c
      · exact ⟨rfl, List.append_cancel_left same⟩
      · exact absurd (List.cons.inj same).1 (by decide)
      · exact absurd (List.cons.inj same).1 (by decide)
      · exact ⟨rfl, List.append_cancel_left same⟩
    | _ => exact absurd kind (by simp [Value.kind])
  | .number n, w, _, _, apart, ends, ends', same => by
    have kind := kind_eq same
    cases w with
    | number m =>
      obtain ⟨texts, rests⟩ := Number.text_append_inj ends ends' same
      have numbers : n = m := by
        refine Number.text_inj (fun a b left right => ?_) texts
        subst left right
        exact apart a (List.mem_singleton_self a) b (List.mem_singleton_self b)
      exact ⟨by rw [numbers], rests⟩
    | _ => exact absurd kind (by simp [Value.kind])
  | .string s, w, _, _, _, _, _, same => by
    have kind := kind_eq same
    cases w with
    | string s' =>
      obtain ⟨strings, rests⟩ := quoted_append_inj same
      exact ⟨by rw [strings], rests⟩
    | _ => exact absurd kind (by simp [Value.kind])
  | .array items, w, _, _, apart, _, _, same => by
    have kind := kind_eq same
    cases w with
    | array items' =>
      obtain ⟨lists, rests⟩ := itemsChars_append_inj items items' apart (List.cons.inj same).2
      exact ⟨by rw [lists], rests⟩
    | _ => exact absurd kind (by simp [Value.kind])
  | .object members, w, _, _, apart, _, _, same => by
    have kind := kind_eq same
    cases w with
    | object members' =>
      obtain ⟨lists, rests⟩ := membersChars_append_inj members members' apart (List.cons.inj same).2
      exact ⟨by rw [lists], rests⟩
    | _ => exact absurd kind (by simp [Value.kind])

theorem itemsChars_append_inj : ∀ (vs ws : List Value) {rest rest' : List Char},
    PrintApart (itemsFloats vs) (itemsFloats ws) →
      itemsChars vs ++ rest = itemsChars ws ++ rest' → vs = ws ∧ rest = rest'
  | [], ws, _, _, _, same => by
    cases ws with
    | nil => exact ⟨rfl, List.append_cancel_left same⟩
    | cons w ws =>
      rw [itemsChars_cons, List.append_assoc] at same
      exact absurd same.symm (chars_append_ne (.inl rfl) _ _)
  | v :: vs, ws, _, _, apart, same => by
    cases ws with
    | nil =>
      rw [itemsChars_cons, List.append_assoc] at same
      exact absurd same (chars_append_ne (.inl rfl) _ _)
    | cons w ws =>
      rw [itemsChars_cons, itemsChars_cons, List.append_assoc, List.append_assoc] at same
      obtain ⟨rfl, tails⟩ := chars_append_inj v w apart.left (ends_more rfl vs _)
        (ends_more rfl ws _) same
      obtain ⟨rfl, rfl, rests⟩ | others := more_append_inj (by decide) tails
      · exact ⟨rfl, rests⟩
      · obtain ⟨rfl, rests⟩ := itemsChars_append_inj vs ws apart.right others
        exact ⟨rfl, rests⟩

theorem membersChars_append_inj : ∀ (ms ns : Members) {rest rest' : List Char},
    PrintApart (membersFloats ms) (membersFloats ns) →
      membersChars ms ++ rest = membersChars ns ++ rest' → ms = ns ∧ rest = rest'
  | [], ns, _, _, _, same => by
    cases ns with
    | nil => exact ⟨rfl, List.append_cancel_left same⟩
    | cons n ns =>
      rw [membersChars_cons, List.append_assoc, quoted_append] at same
      exact absurd (List.cons.inj same).1 (by decide)
  | (k, v) :: ms, ns, _, _, apart, same => by
    cases ns with
    | nil =>
      rw [membersChars_cons, List.append_assoc, quoted_append] at same
      exact absurd (List.cons.inj same).1 (by decide)
    | cons n ns =>
      obtain ⟨k', w⟩ := n
      rw [membersChars_cons, membersChars_cons, List.append_assoc, List.append_assoc] at same
      obtain ⟨rfl, values⟩ := quoted_append_inj same
      rw [List.cons_append, List.cons_append, List.append_assoc, List.append_assoc] at values
      obtain ⟨rfl, tails⟩ := chars_append_inj v w apart.left (ends_more rfl ms _)
        (ends_more rfl ns _) (List.cons.inj values).2
      obtain ⟨rfl, rfl, rests⟩ | others := more_append_inj (by decide) tails
      · exact ⟨rfl, rests⟩
      · obtain ⟨rfl, rests⟩ := membersChars_append_inj ms ns apart.right others
        exact ⟨rfl, rests⟩

end

theorem compact_inj {v w : Value} (apart : PrintApart v.floats w.floats)
    (same : v.compact = w.compact) : v = w := by
  have chars : v.chars ++ [] = w.chars ++ [] := by
    rw [List.append_nil, List.append_nil]
    exact String.ofList_injective same
  have ends : Ends [] := fun _ head => nomatch head
  exact (chars_append_inj v w apart ends ends chars).1

section Spellings

mutual

/-- A value with other doubles in place of its own. -/
def mapFloats (f : UInt64 → UInt64) : Value → Value
  | .number (.float bits) => .number (.float (f bits))
  | .array items => .array (mapItems f items)
  | .object members => .object (mapMembers f members)
  | .null => .null
  | .bool b => .bool b
  | .number (.int n) => .number (.int n)
  | .string s => .string s

def mapItems (f : UInt64 → UInt64) : List Value → List Value
  | [] => []
  | v :: rest => mapFloats f v :: mapItems f rest

def mapMembers (f : UInt64 → UInt64) : List (String × Value) → List (String × Value)
  | [] => []
  | (k, v) :: rest => (k, mapFloats f v) :: mapMembers f rest

end

variable {f : UInt64 → UInt64}

mutual

theorem chars_mapFloats (same : ∀ b, floatText (f b) = floatText b) :
    ∀ v : Value, (v.mapFloats f).chars = v.chars
  | .null | .bool _ | .number (.int _) | .string _ => rfl
  | .number (.float b) => same b
  | .array items => congrArg ('[' :: ·) (itemsChars_mapItems same items)
  | .object members => congrArg ('\x7b' :: ·) (membersChars_mapMembers same members)

theorem itemsChars_mapItems (same : ∀ b, floatText (f b) = floatText b) :
    ∀ vs : List Value, itemsChars (mapItems f vs) = itemsChars vs
  | [] => rfl
  | v :: rest => by
    have others := itemsChars_mapItems same rest
    rw [mapItems, itemsChars_cons, itemsChars_cons, chars_mapFloats same v]
    cases rest with
    | nil => rfl
    | cons => exact congrArg (fun cs => v.chars ++ ',' :: cs) others

theorem membersChars_mapMembers (same : ∀ b, floatText (f b) = floatText b) :
    ∀ ms : Members, membersChars (mapMembers f ms) = membersChars ms
  | [] => rfl
  | (k, v) :: rest => by
    have others := membersChars_mapMembers same rest
    rw [mapMembers, membersChars_cons, membersChars_cons, chars_mapFloats same v]
    cases rest with
    | nil => rfl
    | cons => exact congrArg (fun cs => quoted k ++ ':' :: (v.chars ++ ',' :: cs)) others

end

mutual

theorem floats_mapFloats : ∀ v : Value, (v.mapFloats f).floats = v.floats.map f
  | .null | .bool _ | .number (.int _) | .string _ | .number (.float _) => rfl
  | .array items => itemsFloats_mapItems items
  | .object members => membersFloats_mapMembers members

theorem itemsFloats_mapItems : ∀ vs : List Value,
    itemsFloats (mapItems f vs) = (itemsFloats vs).map f
  | [] => rfl
  | v :: rest => by
    rw [mapItems, itemsFloats, itemsFloats, List.map_append, floats_mapFloats v,
      itemsFloats_mapItems rest]

theorem membersFloats_mapMembers : ∀ ms : Members,
    membersFloats (mapMembers f ms) = (membersFloats ms).map f
  | [] => rfl
  | (_, v) :: rest => by
    rw [mapMembers, membersFloats, membersFloats, List.map_append, floats_mapFloats v,
      membersFloats_mapMembers rest]

end

/-- One of the doubles that are written like a double, the same for all of them. -/
noncomputable def spelling (b : UInt64) : UInt64 :=
  Classical.epsilon fun a => floatText a = floatText b

theorem floatText_spelling (b : UInt64) : floatText (spelling b) = floatText b :=
  Classical.epsilon_spec (p := fun a => floatText a = floatText b) ⟨b, rfl⟩

theorem spelling_congr {a b : UInt64} (same : floatText a = floatText b) :
    spelling a = spelling b := by
  rw [spelling, spelling, same]

/-- Whatever the texts of doubles tell apart, the text of a value tells all the rest of it. -/
theorem mapFloats_eq_of_compact {v w : Value} (same : v.compact = w.compact) :
    v.mapFloats spelling = w.mapFloats spelling := by
  have text (v : Value) : (v.mapFloats spelling).compact = v.compact :=
    congrArg String.ofList (chars_mapFloats floatText_spelling v)
  have apart : PrintApart (v.mapFloats spelling).floats (w.mapFloats spelling).floats := by
    rw [floats_mapFloats, floats_mapFloats]
    intro a ha b hb alike
    obtain ⟨x, _, rfl⟩ := List.mem_map.1 ha
    obtain ⟨y, _, rfl⟩ := List.mem_map.1 hb
    rw [floatText_spelling, floatText_spelling] at alike
    exact spelling_congr alike
  apply compact_inj apart
  rw [text, text, same]

end Spellings

end Value

end Flowgraph.Json
