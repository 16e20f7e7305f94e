import Flowgraph.Json.Value

namespace Flowgraph.Json.Members

/-- No key stands for two members. -/
def Distinct (ms : Members) : Prop := (ms.map Prod.fst).Nodup

variable {ms : Members} {k : String} {v : Value}

theorem Distinct.nil : Distinct [] := List.Pairwise.nil

theorem put_of_mem (present : k ∈ ms.map Prod.fst) :
    (put k v ms).map Prod.fst = ms.map Prod.fst := by
  induction ms with
  | nil => cases present
  | cons m rest ih =>
    obtain ⟨k', v'⟩ := m
    by_cases same : k' = k
    · simp [put, same]
    · have later : k ∈ rest.map Prod.fst := by
        rcases List.mem_cons.1 present with here | later
        · exact absurd here.symm same
        · exact later
      simpa [put, same] using ih later

theorem put_of_notMem (absent : k ∉ ms.map Prod.fst) : put k v ms = ms ++ [(k, v)] := by
  induction ms with
  | nil => rfl
  | cons m rest ih =>
    obtain ⟨k', v'⟩ := m
    obtain ⟨other, later⟩ := not_or.1 (mt List.mem_cons.2 absent)
    simp [put, Ne.symm other, ih later]

theorem Distinct.put (h : Distinct ms) (k : String) (v : Value) : Distinct (put k v ms) := by
  by_cases present : k ∈ ms.map Prod.fst
  · rw [Distinct, put_of_mem present]
    exact h
  · rw [Distinct, put_of_notMem present, List.map_append, List.nodup_append]
    refine ⟨h, by simp, ?_⟩
    intro a ha b hb same
    rw [List.map_singleton, List.mem_singleton] at hb
    rw [same, hb] at ha
    exact present ha

theorem Distinct.putAll (h : Distinct ms) (added : Members) : Distinct (putAll ms added) := by
  induction added generalizing ms with
  | nil => exact h
  | cons m rest ih => exact ih (h.put m.1 m.2)

theorem Distinct.ofList (ms : Members) : Distinct (ofList ms) := Distinct.nil.putAll ms

theorem putAll_eq_append {added : Members} (h : Distinct (ms ++ added)) :
    putAll ms added = ms ++ added := by
  induction added generalizing ms with
  | nil => simp [putAll]
  | cons m rest ih =>
    have absent : m.1 ∉ ms.map Prod.fst := by
      have disjoint := (List.nodup_append.1 (by simpa [Distinct] using h)).2.2
      intro present
      exact disjoint m.1 present m.1 (by simp) rfl
    have step : putAll ms (m :: rest) = putAll (ms ++ [m]) rest :=
      congrArg (fun ms => putAll ms rest) (put_of_notMem absent)
    rw [step, ih (by simpa using h), List.append_assoc]
    rfl

theorem ofList_eq_self (h : Distinct ms) : ofList ms = ms := by
  have h' : Distinct ([] ++ ms) := h
  exact putAll_eq_append h'

theorem put_put (k : String) (v v' : Value) (ms : Members) :
    put k v (put k v' ms) = put k v ms := by
  induction ms with
  | nil => exact if_pos rfl
  | cons m rest ih =>
    obtain ⟨k', w⟩ := m
    by_cases same : k' = k
    · simp [put, same]
    · simp [put, same, ih]

theorem mem_put {m : String × Value} (h : m ∈ put k v ms) : m = (k, v) ∨ m ∈ ms := by
  induction ms with
  | nil => exact .inl (List.mem_singleton.1 h)
  | cons n rest ih =>
    obtain ⟨k', v'⟩ := n
    by_cases same : k' = k
    · rw [put, if_pos same, same, List.mem_cons] at h
      exact h.imp_right (List.mem_cons_of_mem _)
    · rw [put, if_neg same, List.mem_cons] at h
      rcases h with rfl | h
      · exact .inr List.mem_cons_self
      · exact (ih h).imp_right (List.mem_cons_of_mem _)

theorem mem_put_iff {m : String × Value} (other : m.1 ≠ k) : m ∈ put k v ms ↔ m ∈ ms := by
  induction ms with
  | nil =>
    have apart : m ≠ (k, v) := fun eq => other (congrArg Prod.fst eq)
    rw [put, List.mem_singleton]
    exact iff_of_false apart List.not_mem_nil
  | cons n rest ih =>
    obtain ⟨k', v'⟩ := n
    by_cases same : k' = k
    · subst same
      have apart (w : Value) : m ≠ (k', w) := fun eq => other (congrArg Prod.fst eq)
      rw [put, if_pos rfl, List.mem_cons, List.mem_cons, or_iff_right (apart _),
        or_iff_right (apart _)]
    · rw [put, if_neg same, List.mem_cons, List.mem_cons, ih]

theorem mem_putAll {added : Members} {m : String × Value} (h : m ∈ putAll ms added) :
    m ∈ ms ∨ m ∈ added := by
  induction added generalizing ms with
  | nil => exact .inl h
  | cons n rest ih =>
    rcases ih h with before | later
    · rcases mem_put before with rfl | before
      · exact .inr List.mem_cons_self
      · exact .inl before
    · exact .inr (List.mem_cons_of_mem _ later)

theorem mem_ofList {m : String × Value} (h : m ∈ ofList ms) : m ∈ ms :=
  (mem_putAll h).resolve_left List.not_mem_nil

theorem get?_eq_none (absent : k ∉ ms.map Prod.fst) : get? k ms = none := by
  induction ms with
  | nil => rfl
  | cons m rest ih =>
    obtain ⟨k', v'⟩ := m
    obtain ⟨other, later⟩ := not_or.1 (mt List.mem_cons.2 absent)
    rw [get?, if_neg (Ne.symm other), ih later]

theorem get?_eq_some_of_mem (distinct : Distinct ms) (mem : (k, v) ∈ ms) :
    get? k ms = some v := by
  induction ms with
  | nil => cases mem
  | cons m rest ih =>
    obtain ⟨k', v'⟩ := m
    obtain ⟨absent, distinct⟩ := List.nodup_cons.1 distinct
    rcases List.mem_cons.1 mem with here | later
    · cases here
      exact if_pos rfl
    · have other : k' ≠ k := by
        rintro rfl
        exact absent (List.mem_map.2 ⟨_, later, rfl⟩)
      rw [get?, if_neg other, ih distinct later]

theorem mem_of_get? (found : get? k ms = some v) : (k, v) ∈ ms := by
  induction ms with
  | nil => cases found
  | cons m rest ih =>
    obtain ⟨k', v'⟩ := m
    rw [get?] at found
    split at found
    · next same =>
      cases found
      rw [same]
      exact List.mem_cons_self
    · exact List.mem_cons_of_mem _ (ih found)

theorem mem_keys_iff : k ∈ ms.map Prod.fst ↔ ∃ v, get? k ms = some v := by
  constructor
  · intro present
    induction ms with
    | nil => cases present
    | cons m rest ih =>
      obtain ⟨k', v'⟩ := m
      by_cases same : k' = k
      · exact ⟨v', if_pos same⟩
      · obtain ⟨v, found⟩ := ih ((List.mem_cons.1 present).resolve_left (Ne.symm same))
        exact ⟨v, (if_neg same).trans found⟩
  · rintro ⟨v, found⟩
    exact List.mem_map_of_mem (f := Prod.fst) (mem_of_get? found)

theorem get?_append (k : String) (ms ns : Members) :
    get? k (ms ++ ns) = (get? k ms).or (get? k ns) := by
  induction ms with
  | nil => rfl
  | cons m rest ih =>
    obtain ⟨k', v'⟩ := m
    rw [List.cons_append, get?, get?]
    split
    · rfl
    · exact ih

theorem get?_put (k k' : String) (v : Value) (ms : Members) :
    get? k (put k' v ms) = if k' = k then some v else get? k ms := by
  induction ms with
  | nil => rfl
  | cons m rest ih =>
    obtain ⟨k'', v''⟩ := m
    by_cases here : k'' = k'
    · subst here
      rw [put, if_pos rfl, get?, get?]
      split <;> rfl
    · rw [put, if_neg here, get?, get?, ih]
      by_cases same : k'' = k
      · subst same
        rw [if_pos rfl, if_pos rfl, if_neg (Ne.symm here)]
      · rw [if_neg same, if_neg same]

/-- Of added members with one key the last counts. -/
theorem get?_putAll (k : String) (ms added : Members) :
    get? k (putAll ms added) = (get? k added.reverse).or (get? k ms) := by
  induction added generalizing ms with
  | nil => rfl
  | cons m rest ih =>
    have step : putAll ms (m :: rest) = putAll (put m.1 m.2 ms) rest := rfl
    rw [step, ih, get?_put, List.reverse_cons, get?_append, Option.or_assoc]
    congr 1
    rw [get?]
    split <;> rfl

theorem get?_ofList (k : String) (ms : Members) : get? k (ofList ms) = get? k ms.reverse := by
  rw [ofList, get?_putAll]
  exact Option.or_none

theorem erase_perm_sublist (k : String) (ms : Members) :
    ∃ l, (erase k ms).Perm l ∧ l.Sublist ms := by
  induction ms with
  | nil => exact ⟨[], .refl _, .refl _⟩
  | cons m rest ih =>
    obtain ⟨k', v'⟩ := m
    by_cases same : k' = k
    · refine ⟨rest, ?_, List.sublist_cons_self _ _⟩
      cases last : rest.getLast? with
      | none =>
        rw [List.getLast?_eq_none_iff] at last
        simp [erase, same, last]
      | some m =>
        -- The last member moves to the front of the others.
        obtain ⟨front, rfl⟩ := List.getLast?_eq_some_iff.1 last
        simpa [erase, same] using (List.perm_append_singleton m front).symm
    · obtain ⟨l, perm, sub⟩ := ih
      exact ⟨(k', v') :: l, by simpa [erase, same] using perm, sub.cons_cons _⟩

theorem Distinct.erase (h : Distinct ms) (k : String) : Distinct (erase k ms) := by
  obtain ⟨l, perm, sub⟩ := erase_perm_sublist k ms
  exact (perm.map Prod.fst).nodup_iff.2 (h.sublist (sub.map Prod.fst))

theorem mem_erase_iff {m : String × Value} (other : m.1 ≠ k) : m ∈ erase k ms ↔ m ∈ ms := by
  induction ms with
  | nil => rfl
  | cons n rest ih =>
    obtain ⟨k', v'⟩ := n
    by_cases same : k' = k
    · subst same
      have apart : m ≠ (k', v') := fun eq => other (congrArg Prod.fst eq)
      rw [erase, if_pos rfl, List.mem_cons, or_iff_right apart]
      cases last : rest.getLast? with
      | none => rw [List.getLast?_eq_none_iff.1 last]
      | some l =>
        obtain ⟨front, rfl⟩ := List.getLast?_eq_some_iff.1 last
        simp [or_comm]
    · rw [erase, if_neg same, List.mem_cons, List.mem_cons, ih]

theorem get?_eq_some_iff (distinct : Distinct ms) : get? k ms = some v ↔ (k, v) ∈ ms :=
  ⟨mem_of_get?, get?_eq_some_of_mem distinct⟩

theorem notMem_erase (distinct : Distinct ms) : (k, v) ∉ erase k ms := by
  induction ms with
  | nil => exact List.not_mem_nil
  | cons n rest ih =>
    obtain ⟨k', v'⟩ := n
    obtain ⟨absent, distinct⟩ := List.nodup_cons.1 distinct
    by_cases same : k' = k
    · subst same
      intro kept
      have later : (k', v) ∈ rest := by
        rw [erase, if_pos rfl] at kept
        cases last : rest.getLast? with
        | none =>
          rw [last] at kept
          cases kept
        | some m =>
          obtain ⟨front, rfl⟩ := List.getLast?_eq_some_iff.1 last
          simpa [or_comm] using kept
      exact absent (List.mem_map.2 ⟨_, later, rfl⟩)
    · rw [erase, if_neg same, List.mem_cons]
      rintro (here | kept)
      · exact same (congrArg Prod.fst here).symm
      · exact ih distinct kept

theorem get?_erase (distinct : Distinct ms) (k k' : String) :
    get? k (erase k' ms) = if k' = k then none else get? k ms := by
  apply Option.ext
  intro v
  rw [get?_eq_some_iff (distinct.erase k')]
  split
  · next same =>
    subst same
    exact iff_of_false (notMem_erase distinct) nofun
  · next other =>
    rw [mem_erase_iff (Ne.symm other), get?_eq_some_iff distinct]

end Flowgraph.Json.Members
