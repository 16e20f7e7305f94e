namespace Flowgraph

open Std

/-- A finite map whose entries ascend strictly by key. -/
structure SortedMap (κ : Type) (β : Type) [Ord κ] where
  entries : List (κ × β)
  ascending : entries.Pairwise fun a b => compare a.1 b.1 = .lt

namespace SortedMap

variable {κ β : Type} [Ord κ]

/-- The value at a key of a list of entries. -/
def lookup (k : κ) : List (κ × β) → Option β
  | [] => none
  | (k', v) :: rest => if compare k k' = .eq then some v else lookup k rest

/-- Writes an entry at its place in an ascending list. -/
def place (k : κ) (v : β) : List (κ × β) → List (κ × β)
  | [] => [(k, v)]
  | (k', v') :: rest =>
    match compare k k' with
    | .lt => (k, v) :: (k', v') :: rest
    | .eq => (k, v) :: rest
    | .gt => (k', v') :: place k v rest

theorem mem_place {k : κ} {v : β} {e : κ × β} {l : List (κ × β)} (h : e ∈ place k v l) :
    e = (k, v) ∨ e ∈ l := by
  induction l with
  | nil => simpa [place] using h
  | cons a rest ih =>
    obtain ⟨k', v'⟩ := a
    simp only [place] at h
    split at h
    · simpa using h
    · rcases List.mem_cons.1 h with h | h
      · exact .inl h
      · exact .inr (List.mem_cons_of_mem _ h)
    · rcases List.mem_cons.1 h with h | h
      · exact .inr (h ▸ List.mem_cons_self)
      · exact (ih h).imp_right (List.mem_cons_of_mem _)

theorem pairwise_place [TransOrd κ] [LawfulEqOrd κ] (k : κ) (v : β) {l : List (κ × β)}
    (h : l.Pairwise fun a b => compare a.1 b.1 = .lt) :
    (place k v l).Pairwise fun a b => compare a.1 b.1 = .lt := by
  induction l with
  | nil => simp [place]
  | cons a rest ih =>
    obtain ⟨k', v'⟩ := a
    obtain ⟨head, tail⟩ := List.pairwise_cons.1 h
    simp only [place]
    split
    · rename_i lt
      refine List.pairwise_cons.2 ⟨fun b hb => ?_, h⟩
      rcases List.mem_cons.1 hb with rfl | hb
      · exact lt
      · exact TransCmp.lt_trans lt (head b hb)
    · rename_i eq
      have eq := LawfulEqCmp.eq_of_compare eq
      subst eq
      exact List.pairwise_cons.2 ⟨head, tail⟩
    · rename_i gt
      refine List.pairwise_cons.2 ⟨fun b hb => ?_, ih tail⟩
      rcases mem_place hb with rfl | hb
      · exact OrientedCmp.lt_of_gt gt
      · exact head b hb

def empty : SortedMap κ β := ⟨[], .nil⟩

instance : Inhabited (SortedMap κ β) := ⟨empty⟩

def find? (m : SortedMap κ β) (k : κ) : Option β := lookup k m.entries

def contains (m : SortedMap κ β) (k : κ) : Bool := (m.find? k).isSome

/-- Stores a value at a key, in place of any value already there. -/
def insert [TransOrd κ] [LawfulEqOrd κ] (m : SortedMap κ β) (k : κ) (v : β) : SortedMap κ β :=
  ⟨place k v m.entries, pairwise_place k v m.ascending⟩

def erase (m : SortedMap κ β) (k : κ) : SortedMap κ β :=
  ⟨m.entries.filter fun e => compare k e.1 != .eq, m.ascending.filter _⟩

/-- Stores the entries of a list one after another. -/
def insertMany [TransOrd κ] [LawfulEqOrd κ] (m : SortedMap κ β) (l : List (κ × β)) :
    SortedMap κ β :=
  l.foldl (fun m e => m.insert e.1 e.2) m

/-- The map of a list of entries; of two entries with one key the later counts. -/
def ofList [TransOrd κ] [LawfulEqOrd κ] (l : List (κ × β)) : SortedMap κ β :=
  empty.insertMany l

/-- The keys, ascending. -/
def keys (m : SortedMap κ β) : List κ := m.entries.map Prod.fst

def values (m : SortedMap κ β) : List β := m.entries.map Prod.snd

def size (m : SortedMap κ β) : Nat := m.entries.length

def isEmpty (m : SortedMap κ β) : Bool := m.entries.isEmpty

@[simp] theorem find?_empty (k : κ) : (empty : SortedMap κ β).find? k = none := rfl

section Lawful

variable [LawfulEqOrd κ]

theorem lookup_place [DecidableEq κ] (k : κ) (v : β) (j : κ) (l : List (κ × β)) :
    lookup j (place k v l) = if j = k then some v else lookup j l := by
  induction l with
  | nil => simp [place, lookup, LawfulEqCmp.compare_eq_iff_eq]
  | cons a rest ih =>
    obtain ⟨k', v'⟩ := a
    simp only [place]
    split
    · simp [lookup, LawfulEqCmp.compare_eq_iff_eq]
    · rename_i eq
      have eq := LawfulEqCmp.eq_of_compare eq
      subst eq
      by_cases h : j = k <;> simp [lookup, LawfulEqCmp.compare_eq_iff_eq, h]
    · rename_i gt
      have ne : k' ≠ k := fun h => by simp [h] at gt
      by_cases h : j = k
      · subst h
        simp [lookup, LawfulEqCmp.compare_eq_iff_eq, ih, Ne.symm ne]
      · simp [lookup, LawfulEqCmp.compare_eq_iff_eq, ih, h]

/-- A written key reads its new value and every other key its old one. -/
theorem find?_insert [TransOrd κ] [DecidableEq κ] (m : SortedMap κ β) (k : κ) (v : β) (j : κ) :
    (m.insert k v).find? j = if j = k then some v else m.find? j :=
  lookup_place k v j m.entries

theorem contains_insert [TransOrd κ] [DecidableEq κ] (m : SortedMap κ β) (k : κ) (v : β) (j : κ) :
    (m.insert k v).contains j = (decide (j = k) || m.contains j) := by
  rw [contains, find?_insert, contains]
  by_cases same : j = k <;> simp [same]

theorem lookup_filter_ne [DecidableEq κ] (k j : κ) (l : List (κ × β)) :
    lookup j (l.filter fun e => compare k e.1 != .eq) = if j = k then none else lookup j l := by
  induction l with
  | nil => simp [lookup]
  | cons a rest ih =>
    obtain ⟨k', v'⟩ := a
    by_cases hk : k = k'
    · subst hk
      by_cases h : j = k
      · subst h
        simpa using ih
      · simp [lookup, LawfulEqCmp.compare_eq_iff_eq, ih, h]
    · by_cases h : j = k
      · subst h
        simp [lookup, LawfulEqCmp.compare_eq_iff_eq, ih, hk]
      · simp [lookup, LawfulEqCmp.compare_eq_iff_eq, ih, hk, h]

/-- A dropped key reads nothing and every other key its old value. -/
theorem find?_erase [DecidableEq κ] (m : SortedMap κ β) (k j : κ) :
    (m.erase k).find? j = if j = k then none else m.find? j :=
  lookup_filter_ne k j m.entries

theorem contains_erase [DecidableEq κ] (m : SortedMap κ β) (k j : κ) :
    (m.erase k).contains j = (!decide (j = k) && m.contains j) := by
  rw [contains, find?_erase, contains]
  by_cases same : j = k <;> simp [same]

theorem lookup_eq_some_iff {l : List (κ × β)} {k : κ} {v : β}
    (h : l.Pairwise fun a b => compare a.1 b.1 = .lt) :
    lookup k l = some v ↔ (k, v) ∈ l := by
  induction l with
  | nil => simp [lookup]
  | cons a rest ih =>
    obtain ⟨k', v'⟩ := a
    obtain ⟨head, tail⟩ := List.pairwise_cons.1 h
    by_cases hk : k = k'
    · subst hk
      have notin : (k, v) ∉ rest := fun hm => by simpa using head _ hm
      simp [lookup, notin, eq_comm]
    · simp [lookup, LawfulEqCmp.compare_eq_iff_eq, hk, ih tail]

/-- The entries are the pairs that the map reads. -/
theorem find?_eq_some_iff (m : SortedMap κ β) {k : κ} {v : β} :
    m.find? k = some v ↔ (k, v) ∈ m.entries :=
  lookup_eq_some_iff m.ascending

theorem entries_eq_of_mem_iff [TransOrd κ] {l l' : List (κ × β)}
    (h : l.Pairwise fun a b => compare a.1 b.1 = .lt)
    (h' : l'.Pairwise fun a b => compare a.1 b.1 = .lt)
    (same : ∀ e, e ∈ l ↔ e ∈ l') : l = l' := by
  induction l generalizing l' with
  | nil => exact (List.eq_nil_iff_forall_not_mem.2 fun e he => by simpa using (same e).2 he).symm
  | cons a rest ih =>
    cases l' with
    | nil => simpa using (same a).1 List.mem_cons_self
    | cons b rest' =>
      obtain ⟨head, tail⟩ := List.pairwise_cons.1 h
      obtain ⟨head', tail'⟩ := List.pairwise_cons.1 h'
      have hab : a = b := by
        rcases List.mem_cons.1 ((same a).1 List.mem_cons_self) with e | ha
        · exact e
        · rcases List.mem_cons.1 ((same b).2 List.mem_cons_self) with e | hb
          · exact e.symm
          · have := TransCmp.lt_trans (head b hb) (head' a ha)
            simp at this
      subst hab
      refine congrArg _ (ih tail tail' fun e => ⟨fun he => ?_, fun he => ?_⟩)
      · rcases List.mem_cons.1 ((same e).1 (List.mem_cons_of_mem _ he)) with rfl | he'
        · simpa using head e he
        · exact he'
      · rcases List.mem_cons.1 ((same e).2 (List.mem_cons_of_mem _ he)) with rfl | he'
        · simpa using head' e he
        · exact he'

/-- The values are what the map reads at some key. -/
theorem mem_values_iff {m : SortedMap κ β} {v : β} : v ∈ m.values ↔ ∃ k, m.find? k = some v := by
  simp [values, find?_eq_some_iff]

theorem place_perm {k : κ} (v : β) {l : List (κ × β)} (absent : k ∉ l.map Prod.fst) :
    (place k v l).Perm ((k, v) :: l) := by
  induction l with
  | nil => exact .refl _
  | cons a rest ih =>
    obtain ⟨k', v'⟩ := a
    obtain ⟨other, absent⟩ := not_or.1 (mt List.mem_cons.2 absent)
    simp only [place]
    split
    · exact .refl _
    · next eq => exact absurd (LawfulEqCmp.eq_of_compare eq) other
    · exact ((ih absent).cons _).trans (.swap ..)

/-- A new key joins the others. -/
theorem keys_insert_perm [TransOrd κ] {m : SortedMap κ β} {k : κ} (v : β) (absent : k ∉ m.keys) :
    (m.insert k v).keys.Perm (k :: m.keys) :=
  (place_perm v absent).map Prod.fst

theorem mem_keys_iff [DecidableEq κ] {m : SortedMap κ β} {k : κ} :
    k ∈ m.keys ↔ m.contains k = true := by
  simp only [keys, contains, Option.isSome_iff_exists, find?_eq_some_iff, List.mem_map]
  constructor
  · rintro ⟨⟨_, v⟩, mem, rfl⟩
    exact ⟨v, mem⟩
  · rintro ⟨v, mem⟩
    exact ⟨(k, v), mem, rfl⟩

theorem nodup_keys [TransOrd κ] (m : SortedMap κ β) : m.keys.Nodup := by
  refine List.pairwise_map.2 (m.ascending.imp fun {a b} lt same => ?_)
  rw [same] at lt
  simp at lt

theorem keys_ascending (m : SortedMap Int β) : m.keys.Pairwise (· < ·) := by
  apply List.pairwise_map.2
  apply m.ascending.imp
  intro a b lt
  exact Int.compare_eq_lt.1 lt

/-- What is read after entries are stored is one of them, or was there before. -/
theorem mem_of_find?_insertMany [TransOrd κ] [DecidableEq κ] {l : List (κ × β)}
    {m : SortedMap κ β} {k : κ} {v : β} (found : (m.insertMany l).find? k = some v) :
    (k, v) ∈ l ∨ m.find? k = some v := by
  induction l generalizing m with
  | nil => exact .inr found
  | cons e rest ih =>
    rcases ih (m := m.insert e.1 e.2) found with mem | old
    · exact .inl (List.mem_cons_of_mem _ mem)
    · rw [find?_insert] at old
      split at old
      · next same =>
        cases old
        exact .inl (same ▸ List.mem_cons_self)
      · exact .inr old

/-- Of entries with one key the last is read. -/
theorem find?_insertMany [TransOrd κ] [DecidableEq κ] (m : SortedMap κ β) (l : List (κ × β))
    (k : κ) : (m.insertMany l).find? k =
      ((l.filter (·.1 = k)).getLast?.map Prod.snd).or (m.find? k) := by
  induction l generalizing m with
  | nil => rfl
  | cons e rest ih =>
    have later := ih (m.insert e.1 e.2)
    rw [find?_insert] at later
    rw [insertMany, List.foldl_cons]
    refine later.trans ?_
    by_cases same : k = e.1
    · rw [if_pos same, List.filter_cons_of_pos (by simp [same]), List.getLast?_cons]
      cases (rest.filter (·.1 = k)).getLast? <;> rfl
    · rw [if_neg same, List.filter_cons_of_neg (by simpa using Ne.symm same)]

/-- Of things that are stored each under its own key, the last one with a key is read. -/
theorem find?_insertMany_map {α : Type} [TransOrd κ] [DecidableEq κ] (m : SortedMap κ β)
    (l : List α) (key : α → κ) (value : α → β) (k : κ) :
    (m.insertMany (l.map fun a => (key a, value a))).find? k =
      ((l.filter (key · = k)).getLast?.map value).or (m.find? k) := by
  rw [find?_insertMany, List.filter_map, List.getLast?_map, Option.map_map]
  rfl

/-- Every key of a stored entry is found, and so is every key that was there before. -/
theorem contains_insertMany [TransOrd κ] [DecidableEq κ] {l : List (κ × β)} {m : SortedMap κ β}
    {k : κ} (stored : k ∈ l.map Prod.fst ∨ m.contains k = true) :
    (m.insertMany l).contains k = true := by
  induction l generalizing m with
  | nil => exact stored.resolve_left List.not_mem_nil
  | cons e rest ih =>
    refine ih (m := m.insert e.1 e.2) ?_
    rw [contains, find?_insert]
    rcases stored with mem | old
    · rcases List.mem_cons.1 mem with here | later
      · simp [here]
      · exact .inl later
    · rw [contains] at old
      refine .inr ?_
      split
      · rfl
      · exact old

/-- Of entries with distinct keys each is read back, and all other keys read what they did. -/
theorem find?_insertMany_eq_some_iff [TransOrd κ] [DecidableEq κ] {l : List (κ × β)}
    (distinct : (l.map Prod.fst).Nodup) (m : SortedMap κ β) {k : κ} {v : β} :
    (m.insertMany l).find? k = some v ↔
      (k, v) ∈ l ∨ k ∉ l.map Prod.fst ∧ m.find? k = some v := by
  induction l generalizing m with
  | nil => simp [insertMany]
  | cons e rest ih =>
    obtain ⟨k', v'⟩ := e
    obtain ⟨notin, distinct⟩ := List.nodup_cons.1 distinct
    have step := ih distinct (m.insert k' v')
    simp only [insertMany, List.foldl_cons] at step ⊢
    rw [step, find?_insert]
    by_cases same : k = k'
    · subst same
      have absent : (k, v) ∉ rest := fun h => notin (List.mem_map.2 ⟨_, h, rfl⟩)
      simp [notin, absent, eq_comm]
    · simp [same]

/-- A map of entries with distinct keys reads just these entries. -/
theorem find?_ofList_eq_some_iff [TransOrd κ] [DecidableEq κ] {l : List (κ × β)}
    (distinct : (l.map Prod.fst).Nodup) {k : κ} {v : β} :
    (ofList l).find? k = some v ↔ (k, v) ∈ l := by
  simp [ofList, find?_insertMany_eq_some_iff distinct]

theorem keys_ofList_perm [TransOrd κ] [DecidableEq κ] {l : List (κ × β)}
    (distinct : (l.map Prod.fst).Nodup) : (ofList l).keys.Perm (l.map Prod.fst) := by
  refine (List.perm_ext_iff_of_nodup (nodup_keys _) distinct).2 fun k => ?_
  simp only [mem_keys_iff, contains, Option.isSome_iff_exists, find?_ofList_eq_some_iff distinct,
    List.mem_map]
  constructor
  · rintro ⟨v, mem⟩
    exact ⟨(k, v), mem, rfl⟩
  · rintro ⟨⟨_, v⟩, mem, rfl⟩
    exact ⟨v, mem⟩

theorem keys_erase_perm [TransOrd κ] [DecidableEq κ] {m : SortedMap κ β} {k : κ} {v : β}
    (found : m.find? k = some v) : m.keys.Perm (k :: (m.erase k).keys) := by
  have absent : k ∉ (m.erase k).keys := by
    rw [mem_keys_iff, contains, find?_erase, if_pos rfl]
    exact Bool.false_ne_true
  have distinct := List.nodup_cons.2 ⟨absent, nodup_keys (m.erase k)⟩
  refine (List.perm_ext_iff_of_nodup (nodup_keys m) distinct).2 fun j => ?_
  rw [List.mem_cons, mem_keys_iff, mem_keys_iff, contains, contains, find?_erase]
  by_cases same : j = k <;> simp [same, found]

/-- A key that is stored again is no new key. -/
theorem keys_replace_perm [TransOrd κ] [DecidableEq κ] {m : SortedMap κ β} {k : κ} {v : β}
    (w : β) (found : m.find? k = some v) : (m.insert k w).keys.Perm m.keys := by
  refine (List.perm_ext_iff_of_nodup (nodup_keys _) (nodup_keys m)).2 fun j => ?_
  rw [mem_keys_iff, mem_keys_iff, contains, contains, find?_insert]
  by_cases same : j = k <;> simp [same, found]

/-- A map has no entries but those that it is made of. -/
theorem mem_of_mem_ofList [TransOrd κ] [DecidableEq κ] {l : List (κ × β)} {e : κ × β}
    (mem : e ∈ (ofList l).entries) : e ∈ l := by
  rcases mem_of_find?_insertMany ((find?_eq_some_iff _).2 mem) with listed | old
  · exact listed
  · cases old

/-- Maps that read the same are the same. -/
theorem ext_find? [TransOrd κ] {m m' : SortedMap κ β} (h : ∀ k, m.find? k = m'.find? k) :
    m = m' := by
  obtain ⟨l, hl⟩ := m
  obtain ⟨l', hl'⟩ := m'
  have : l = l' := entries_eq_of_mem_iff hl hl' fun ⟨k, v⟩ => by
    have := h k
    simp only [find?] at this
    rw [← lookup_eq_some_iff hl, ← lookup_eq_some_iff hl', this]
  subst this
  rfl

theorem insertMany_append [TransOrd κ] (m : SortedMap κ β) (l l' : List (κ × β)) :
    m.insertMany (l ++ l') = (m.insertMany l).insertMany l' :=
  List.foldl_append

theorem insertMany_insertMany_self [TransOrd κ] [DecidableEq κ] (m : SortedMap κ β)
    (l : List (κ × β)) : (m.insertMany l).insertMany l = m.insertMany l := by
  refine ext_find? fun k => ?_
  rw [find?_insertMany, find?_insertMany, ← Option.or_assoc, Option.or_self]

/-- A map is made of its own entries. -/
theorem ofList_entries [TransOrd κ] [DecidableEq κ] (m : SortedMap κ β) :
    ofList m.entries = m := by
  refine ext_find? fun k => Option.ext fun v => ?_
  rw [find?_ofList_eq_some_iff m.nodup_keys, find?_eq_some_iff]

end Lawful

end SortedMap

end Flowgraph
