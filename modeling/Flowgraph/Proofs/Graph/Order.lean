import Flowgraph.Graph.Order
import Mathlib.Data.List.Perm.Subperm

namespace Flowgraph.Graph

variable {g : Graph}

def Front.unplaced (f : Front) : List NodeId := f.ready ++ f.waiting.keys

theorem Front.follow_unplaced (g : Graph) (f : Front) (id : LinkId) :
    (f.follow g id).unplaced.Perm f.unplaced := by
  unfold follow
  split
  · exact .refl _
  · next link _ =>
    split
    · exact .refl _
    · dsimp only
      split
      · exact .refl _
      · next count waits =>
        split
        · have gone := SortedMap.keys_erase_perm waits
          simp only [unplaced, List.append_assoc, List.singleton_append]
          exact gone.symm.append_left f.ready
        · exact (SortedMap.keys_replace_perm _ waits).append_left f.ready

theorem Front.followAll_unplaced (g : Graph) (f : Front) (ids : List LinkId) :
    (ids.foldl (Front.follow g) f).unplaced.Perm f.unplaced := by
  induction ids generalizing f with
  | nil => exact .refl _
  | cons id ids ih => exact (ih _).trans (f.follow_unplaced g id)

theorem place_perm (g : Graph) {steps : Nat} {f : Front} (enough : f.unplaced.length ≤ steps) :
    (g.place steps f).Perm f.unplaced := by
  induction steps generalizing f with
  | zero =>
    have none : f.ready = [] := by
      have short : f.ready.length + f.waiting.keys.length ≤ 0 := by
        rwa [← List.length_append]
      exact List.length_eq_zero_iff.1 (by omega)
    rw [place, Front.unplaced, none, List.nil_append]
  | succ steps ih =>
    rw [place]
    split
    · next none => rw [Front.unplaced, none, List.nil_append]
    · next id ready first =>
      have rest := Front.followAll_unplaced g { f with ready } (g.outgoing id)
      have split : f.unplaced = id :: ({ f with ready } : Front).unplaced := by
        rw [Front.unplaced, first]
        rfl
      rw [split, List.length_cons] at enough
      rw [split]
      exact ((ih (rest.length_eq ▸ Nat.le_of_succ_le_succ enough)).trans rest).cons id

/-- Even if nodes share ids, the start counts each id that some node has, and no more than there are
nodes. -/
theorem Front.mem_unplaced_start {id : NodeId} :
    id ∈ (Front.start g).unplaced ↔ ∃ n ∈ g.nodes, n.id = id := by
  have waits : id ∈ (Front.start g).waiting.keys ↔
      ∃ n ∈ g.nodes, g.boundInputs n ≠ 0 ∧ n.id = id := by
    rw [SortedMap.mem_keys_iff]
    constructor
    · intro found
      obtain ⟨count, found⟩ := Option.isSome_iff_exists.1 found
      have mem := (SortedMap.mem_of_find?_insertMany found).resolve_right (by simp)
      obtain ⟨n, hn, same⟩ := List.mem_map.1 mem
      rw [List.mem_filter, decide_eq_true_eq] at hn
      exact ⟨n, hn.1, hn.2, congrArg Prod.fst same⟩
    · rintro ⟨n, hn, bound, rfl⟩
      apply SortedMap.contains_insertMany
      left
      apply List.mem_map.2 ⟨(n.id, g.boundInputs n), ?_, rfl⟩
      exact List.mem_map.2 ⟨n, List.mem_filter.2 ⟨hn, decide_eq_true bound⟩, rfl⟩
  rw [unplaced, List.mem_append, waits, Front.start, List.mem_map]
  simp only [List.mem_filter, decide_eq_true_eq]
  constructor
  · rintro (⟨n, ⟨hn, _⟩, hid⟩ | ⟨n, hn, _, hid⟩) <;> exact ⟨n, hn, hid⟩
  · rintro ⟨n, hn, hid⟩
    by_cases bound : g.boundInputs n = 0
    · exact .inl ⟨n, ⟨hn, bound⟩, hid⟩
    · exact .inr ⟨n, hn, bound, hid⟩

theorem Front.length_unplaced_start (g : Graph) :
    (Front.start g).unplaced.length ≤ g.nodes.length := by
  let free (n : Node) : Bool := decide (g.boundInputs n = 0)
  let entries := (g.nodes.filter fun n => !free n).map fun n => (n.id, g.boundInputs n)
  have same : (Front.start g).waiting = .ofList entries := by
    simp [Front.start, entries, free]
  have few : (Front.start g).waiting.keys.length ≤ entries.length := by
    have sub : (Front.start g).waiting.keys ⊆ entries.map Prod.fst := by
      rw [same]
      intro id mem
      obtain ⟨e, he, rfl⟩ := List.mem_map.1 mem
      exact List.mem_map_of_mem (SortedMap.mem_of_mem_ofList he)
    have le := (List.subperm_of_subset (SortedMap.nodup_keys _) sub).length_le
    rwa [List.length_map] at le
  have halves := (List.filter_append_perm free g.nodes).length_eq
  rw [List.length_append] at halves
  rw [List.length_map] at few
  rw [unplaced, List.length_append, ← halves, Front.start, List.length_map]
  exact Nat.add_le_add_left few _

theorem Front.start_unplaced (distinct : (g.nodes.map (·.id)).Nodup) :
    (Front.start g).unplaced.Perm (g.nodes.map (·.id)) := by
  let free (n : Node) : Bool := decide (g.boundInputs n = 0)
  let bound := g.nodes.filter fun n => !free n
  have keys : (bound.map fun n => (n.id, g.boundInputs n)).map Prod.fst = bound.map (·.id) := by
    rw [List.map_map]
    rfl
  have waiting : (Front.start g).waiting.keys.Perm (bound.map (·.id)) := by
    rw [← keys]
    have same : (Front.start g).waiting = .ofList (bound.map fun n => (n.id, g.boundInputs n)) := by
      simp [Front.start, bound, free]
    rw [same]
    apply SortedMap.keys_ofList_perm
    rw [keys]
    exact distinct.sublist (List.filter_sublist.map _)
  have halves := (List.filter_append_perm free g.nodes).map (·.id)
  rw [List.map_append] at halves
  exact (waiting.append_left _).trans halves

theorem executionOrder_perm (distinct : (g.nodes.map (·.id)).Nodup) :
    g.executionOrder.Perm (g.nodes.map (·.id)) :=
  (place_perm g (Front.length_unplaced_start g)).trans (Front.start_unplaced distinct)

theorem mem_executionOrder_iff {id : NodeId} :
    id ∈ g.executionOrder ↔ ∃ n ∈ g.nodes, n.id = id := by
  rw [← Front.mem_unplaced_start]
  exact (place_perm g (Front.length_unplaced_start g)).mem_iff

/-- What the queue of ready nodes places in a number of steps, and the state that it leaves. -/
def drain (g : Graph) : Nat → Front → List NodeId × Front
  | 0, f => ([], f)
  | steps + 1, f =>
    match f.ready with
    | [] => ([], f)
    | id :: ready =>
      let rest := g.drain steps ((g.outgoing id).foldl (Front.follow g) { f with ready })
      (id :: rest.1, rest.2)

theorem drain_of_ready {f : Front} {id : NodeId} {ready : List NodeId}
    (first : f.ready = id :: ready) (steps : Nat) :
    g.drain (steps + 1) f =
      (id :: (g.drain steps ((g.outgoing id).foldl (Front.follow g) { f with ready })).1,
        (g.drain steps ((g.outgoing id).foldl (Front.follow g) { f with ready })).2) := by
  rw [drain, first]

theorem drain_of_dry {f : Front} (dry : f.ready = []) (steps : Nat) :
    g.drain steps f = ([], f) := by
  cases steps with
  | zero => rfl
  | succ steps => rw [drain, dry]

theorem place_eq_drain (g : Graph) (steps : Nat) (f : Front) :
    g.place steps f = (g.drain steps f).1 ++ (g.drain steps f).2.waiting.keys := by
  induction steps generalizing f with
  | zero => rfl
  | succ steps ih =>
    rw [place]
    split
    · next dry => rw [drain_of_dry dry, List.nil_append]
    · next id ready first =>
      rw [drain_of_ready first, ih]
      rfl

/-- What holds at the start and is kept when a ready node is placed holds in the end. -/
theorem drain_invariant {P : List NodeId → Front → Prop}
    (step : ∀ done f id ready, f.ready = id :: ready → P done f →
      P (done ++ [id]) ((g.outgoing id).foldl (Front.follow g) { f with ready }))
    (steps : Nat) {done : List NodeId} {f : Front} (h : P done f) :
    P (done ++ (g.drain steps f).1) (g.drain steps f).2 := by
  induction steps generalizing done f with
  | zero =>
    rw [drain, List.append_nil]
    exact h
  | succ steps ih =>
    cases first : f.ready with
    | nil =>
      rw [drain_of_dry first, List.append_nil]
      exact h
    | cons id ready =>
      have rest := ih (step done f id ready first h)
      rw [List.append_assoc] at rest
      rw [drain_of_ready first]
      exact rest

theorem length_unplaced_lt {f : Front} {id : NodeId} {ready : List NodeId}
    (first : f.ready = id :: ready) :
    ((g.outgoing id).foldl (Front.follow g) { f with ready }).unplaced.length <
      f.unplaced.length := by
  have rest := Front.followAll_unplaced g { f with ready } (g.outgoing id)
  rw [rest.length_eq, Front.unplaced, Front.unplaced, first]
  simp

theorem drain_dry {steps : Nat} {f : Front} (enough : f.unplaced.length ≤ steps) :
    (g.drain steps f).2.ready = [] := by
  induction steps generalizing f with
  | zero =>
    have none : f.unplaced = [] := List.length_eq_zero_iff.1 (Nat.le_zero.1 enough)
    exact (List.append_eq_nil_iff.1 none).1
  | succ steps ih =>
    cases first : f.ready with
    | nil => rwa [drain_of_dry first]
    | cons id ready =>
      rw [drain_of_ready first]
      apply ih
      have fewer := length_unplaced_lt (g := g) first
      omega

theorem place_of_le {steps : Nat} {f : Front} (enough : f.unplaced.length ≤ steps) {more : Nat}
    (le : steps ≤ more) : g.place more f = g.place steps f := by
  induction steps generalizing f more with
  | zero =>
    have none : f.unplaced = [] := List.length_eq_zero_iff.1 (Nat.le_zero.1 enough)
    have dry : f.ready = [] := (List.append_eq_nil_iff.1 none).1
    rw [place_eq_drain, place_eq_drain, drain_of_dry dry, drain_of_dry dry]
  | succ steps ih =>
    cases more with
    | zero => omega
    | succ more =>
      rw [place, place]
      split
      · rfl
      · next id ready first =>
        have fewer := length_unplaced_lt (g := g) first
        rw [ih (by omega) (Nat.le_of_succ_le_succ le)]

end Flowgraph.Graph
