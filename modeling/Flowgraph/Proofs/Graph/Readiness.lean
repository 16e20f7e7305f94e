import Flowgraph.Proofs.Graph.Mirror
import Flowgraph.Proofs.Graph.Order
import Mathlib.Data.Fintype.Card
import Mathlib.Data.Set.Finite.List
import Mathlib.Logic.Relation

namespace Flowgraph

open Relation

section Cycles

variable {α : Type} {r : α → α → Prop}

/-- On a cycle, or reachable from one. -/
def Tangled (r : α → α → Prop) (a : α) : Prop := ∃ c, TransGen r c c ∧ ReflTransGen r c a

theorem not_tangled_of_before [DecidableEq α] {order : List α}
    (before : ∀ a b, r a b → b ∈ order → order.idxOf a < order.idxOf b) {b : α} (hb : b ∈ order) :
    ¬Tangled r b := by
  have member {a b : α} (lt : order.idxOf a < order.idxOf b) : a ∈ order :=
    List.idxOf_lt_length_iff.1 (Nat.lt_of_lt_of_le lt List.idxOf_le_length)
  have along {a b : α} (path : TransGen r a b) (hb : b ∈ order) :
      order.idxOf a < order.idxOf b := by
    induction path with
    | single step => exact before _ _ step hb
    | tail _ step ih =>
      have last := before _ _ step hb
      exact Nat.lt_trans (ih (member last)) last
  rintro ⟨c, cycle, path⟩
  have hc : c ∈ order := by
    rcases reflTransGen_iff_eq_or_transGen.1 path with rfl | path
    · exact hb
    · exact member (along path hb)
  exact Nat.lt_irrefl _ (along cycle hc)

/-- Everything in a finite list is tangled if something in the list leads to each element. -/
theorem tangled_of_stuck {stuck : List α} (led : ∀ b ∈ stuck, ∃ a ∈ stuck, r a b) {b : α}
    (hb : b ∈ stuck) : Tangled r b := by
  by_contra loose
  -- What leads to `b` within the list is finite, and without cycles it has a first element.
  let S : Type := {a : α // a ∈ stuck ∧ ReflTransGen r a b}
  have finite : Finite S :=
    ((List.finite_toSet stuck).subset (t := {a | a ∈ stuck ∧ ReflTransGen r a b}) fun _ h => h.1)
  let leads (x y : S) : Prop := TransGen r x.1 y.1
  have : IsTrans S leads := ⟨fun _ _ _ => TransGen.trans⟩
  have : Std.Irrefl leads := ⟨fun x cycle => loose ⟨x.1, cycle, x.2.2⟩⟩
  have wf : WellFounded leads := Finite.wellFounded_of_trans_of_irrefl leads
  obtain ⟨first, _, least⟩ := wf.has_min Set.univ ⟨⟨b, hb, .refl⟩, trivial⟩
  obtain ⟨a, ha, step⟩ := led first.1 first.2.1
  exact least ⟨a, ha, .head step first.2.2⟩ trivial (.single step)

end Cycles

theorem countP_unmark {α β : Type} {key : α → β} {l : List α} {a : α}
    (distinct : (l.map key).Nodup) (mem : a ∈ l) {p q : α → Bool}
    (other : ∀ b, key b ≠ key a → p b = q b) (here : q a = false) :
    l.countP p = l.countP q + if p a then 1 else 0 := by
  obtain ⟨s, t, rfl⟩ := List.append_of_mem mem
  rw [List.map_append, List.map_cons, List.nodup_append] at distinct
  obtain ⟨_, tail, apart⟩ := distinct
  have left : s.countP p = s.countP q := by
    apply List.countP_congr
    intro b hb
    rw [other b (apart _ (List.mem_map_of_mem hb) _ List.mem_cons_self)]
  have right : t.countP p = t.countP q := by
    apply List.countP_congr
    intro b hb
    rw [other b fun same => (List.nodup_cons.1 tail).1 (same ▸ List.mem_map_of_mem hb)]
  rw [List.countP_append, List.countP_append, List.countP_cons, List.countP_cons, left, right, here]
  simp only [Bool.false_eq_true, if_false]
  omega

namespace Graph

variable {g : Graph} {f : Front} {n : Node}

def Feeds (g : Graph) (a b : NodeId) : Prop := ∃ l ∈ g.links.values, l.origin = a ∧ l.target = b

theorem Sound.nodup_link_ids (h : g.Sound) : (g.links.values.map (·.id)).Nodup := by
  have keys : g.links.values.map (·.id) = g.links.keys := by
    rw [SortedMap.values, SortedMap.keys, List.map_map]
    apply List.map_congr_left
    intro e he
    exact h.keyed e.1 e.2 ((SortedMap.find?_eq_some_iff _).2 he)
  rw [keys]
  exact g.links.nodup_keys

section Inputs

theorem Sound.node?_of_node (h : g.Sound) (hn : n ∈ g.nodes) : g.node? n.id = some n :=
  h.node?_eq_some_iff.2 ⟨hn, rfl⟩

theorem Sound.inputLink?_eq (h : g.Sound) (hn : n ∈ g.nodes) (slot : Nat) :
    g.inputLink? n.id slot = (n.inputs[slot]?.bind (·.link)).bind g.link? := by
  simp only [inputLink?, h.node?_of_node hn, Option.bind_eq_bind, Option.bind_some,
    Option.bind_assoc]

theorem boundInputs_eq_zero_iff (h : g.Sound) (hn : n ∈ g.nodes) :
    g.boundInputs n = 0 ↔ ∀ slot, g.inputLink? n.id slot = none := by
  simp only [boundInputs, List.countP_eq_zero, Option.not_isSome_iff_eq_none, h.inputLink?_eq hn,
    List.mem_iff_getElem?]
  constructor
  · intro unfed slot
    cases at_ : n.inputs[slot]? with
    | none => rfl
    | some s => exact unfed s ⟨slot, at_⟩
  · rintro unfed s ⟨slot, at_⟩
    have none := unfed slot
    rwa [at_] at none

theorem Consistent.boundInputs_eq (c : g.Consistent) (hn : n ∈ g.nodes) :
    g.boundInputs n = g.links.values.countP fun l => decide (l.target = n.id) := by
  have found := c.node?_of_node hn
  have recorded {slot : Nat} {s : InputSlot} {k : LinkId} (at_ : n.inputs[slot]? = some s)
      (link : s.link = some k) : g.into n.id slot = some k := by
    simp [into, input, found, at_, link]
  rw [boundInputs, ← List.length_filterMap_eq_countP, List.countP_eq_length_filter]
  apply List.Perm.length_eq
  refine (List.perm_ext_iff_of_nodup ?_ ?_).2 fun l => ?_
  · -- Slots that record the same link are the slot where the link ends.
    rw [List.Nodup, List.pairwise_filterMap, List.pairwise_iff_getElem]
    intro i j hi hj lt l first l' second same
    subst same
    obtain ⟨k, link, filed⟩ := Option.bind_eq_some_iff.1 first
    obtain ⟨k', link', filed'⟩ := Option.bind_eq_some_iff.1 second
    obtain rfl := c.keyed k l filed
    obtain rfl := c.keyed k' l filed'
    have into := recorded (List.getElem?_eq_getElem hi) link
    have into' := recorded (List.getElem?_eq_getElem hj) link'
    obtain ⟨m, at_, _, slot⟩ := (c.agrees.into_iff _ _ _).1 into
    obtain ⟨m', at', _, slot'⟩ := (c.agrees.into_iff _ _ _).1 into'
    cases at_.symm.trans at'
    omega
  · exact (List.Nodup.of_map _ c.nodup_link_ids).sublist List.filter_sublist
  · rw [List.mem_filterMap, List.mem_filter, decide_eq_true_eq, c.mem_values_iff]
    constructor
    · rintro ⟨s, hs, bound⟩
      obtain ⟨k, link, filed⟩ := Option.bind_eq_some_iff.1 bound
      obtain rfl := c.keyed k l filed
      obtain ⟨slot, at_⟩ := List.mem_iff_getElem?.1 hs
      obtain ⟨m, filed', target, _⟩ := (c.agrees.into_iff _ _ _).1 (recorded at_ link)
      cases filed.symm.trans filed'
      exact ⟨filed, target⟩
    · rintro ⟨filed, target⟩
      have into := (c.agrees.into_iff n.id l.targetSlot l.id).2 ⟨l, filed, target, rfl⟩
      rw [into_eq_wiring found] at into
      obtain ⟨s, at_, link⟩ := Option.bind_eq_some_iff.1 into
      exact ⟨s, List.mem_of_getElem? at_, by rw [link]; exact filed⟩

theorem Consistent.mem_outgoing_iff (c : g.Consistent) {id : NodeId} {k : LinkId} :
    k ∈ g.outgoing id ↔ ∃ l, g.links.find? k = some l ∧ l.origin = id := by
  have listed : k ∈ g.outgoing id ↔ ∃ slot, k ∈ g.outOf id slot := by
    unfold outgoing
    cases found : g.node? id with
    | none => simp [outOf, output, found]
    | some n =>
      simp only [outOf, output, found, Option.bind_some, List.mem_flatMap,
        List.mem_iff_getElem? (l := n.outputs)]
      constructor
      · rintro ⟨s, ⟨slot, at_⟩, hk⟩
        exact ⟨slot, by simpa [at_] using hk⟩
      · rintro ⟨slot, hk⟩
        cases at_ : n.outputs[slot]? with
        | none => simp [at_] at hk
        | some s => exact ⟨s, ⟨slot, at_⟩, by simpa [at_] using hk⟩
  rw [listed]
  constructor
  · rintro ⟨slot, hk⟩
    obtain ⟨l, filed, origin, _⟩ := (c.agrees.mem_outOf_iff _ _ _).1 hk
    exact ⟨l, filed, origin⟩
  · rintro ⟨l, filed, origin⟩
    exact ⟨l.originSlot, (c.agrees.mem_outOf_iff _ _ _).2 ⟨l, filed, origin, rfl⟩⟩

end Inputs

namespace Front

/-- The number of links into a node that are not followed yet. -/
def awaited (g : Graph) (f : Front) (id : NodeId) : Nat :=
  g.links.values.countP fun l => decide (l.target = id) && !f.followed.contains l.id

/-- Waiting nodes wait for the links into them that are not followed, and all links into other
nodes are followed. -/
structure Counts (g : Graph) (f : Front) : Prop where
  awaited : ∀ id, f.awaited g id = (f.waiting.find? id).getD 0
  positive : ∀ id, f.waiting.find? id ≠ some 0

theorem awaited_insert (h : g.Sound) {l : Link} (listed : l ∈ g.links.values)
    (new : f.followed.contains l.id = false) (id : NodeId) :
    f.awaited g id = g.links.values.countP (fun l' => decide (l'.target = id) &&
      !(f.followed.insert l.id ()).contains l'.id) + if id = l.target then 1 else 0 := by
  have unmark := countP_unmark h.nodup_link_ids listed
    (p := fun l => decide (l.target = id) && !f.followed.contains l.id)
    (q := fun l' => decide (l'.target = id) && !(f.followed.insert l.id ()).contains l'.id)
    (fun b other => by simp [SortedMap.contains_insert, other])
    (by simp [SortedMap.contains_insert])
  simp only [new, Bool.not_false, Bool.and_true, decide_eq_true_eq, @eq_comm _ l.target] at unmark
  exact unmark

theorem contains_follow (h : g.Sound) (k j : LinkId) : (f.follow g k).followed.contains j = true ↔
    f.followed.contains j = true ∨ j = k ∧ (g.links.find? k).isSome := by
  unfold follow
  cases found : g.links.find? k with
  | none => simp [link?, found]
  | some l =>
    obtain rfl := h.keyed k l found
    simp only [link?, found]
    split
    · next old =>
      constructor
      · exact .inl
      · rintro (here | ⟨rfl, _⟩)
        · exact here
        · exact old
    · have marked : (f.followed.insert l.id ()).contains j = true ↔
          f.followed.contains j = true ∨ j = l.id ∧ (some l).isSome := by
        simp [SortedMap.contains_insert, or_comm]
      split
      · exact marked
      · split <;> exact marked

theorem contains_followAll (h : g.Sound) (ks : List LinkId) (j : LinkId) :
    (ks.foldl (follow g) f).followed.contains j = true ↔
      f.followed.contains j = true ∨ j ∈ ks ∧ (g.links.find? j).isSome := by
  induction ks generalizing f with
  | nil => simp
  | cons k ks ih =>
    rw [List.foldl_cons, ih, contains_follow h, List.mem_cons]
    constructor
    · rintro ((old | ⟨rfl, filed⟩) | ⟨mem, filed⟩)
      · exact .inl old
      · exact .inr ⟨.inl rfl, filed⟩
      · exact .inr ⟨.inr mem, filed⟩
    · rintro (old | ⟨rfl | mem, filed⟩)
      · exact .inl (.inl old)
      · exact .inl (.inr ⟨rfl, filed⟩)
      · exact .inr ⟨mem, filed⟩

theorem ready_follow (g : Graph) (f : Front) (k : LinkId) :
    f.ready <+: (f.follow g k).ready := by
  unfold follow
  split
  · exact List.prefix_rfl
  · split
    · exact List.prefix_rfl
    · dsimp only
      split
      · exact List.prefix_rfl
      · split
        · exact List.prefix_append _ _
        · exact List.prefix_rfl

theorem ready_followAll (g : Graph) (f : Front) (ks : List LinkId) :
    f.ready <+: (ks.foldl (follow g) f).ready := by
  induction ks generalizing f with
  | nil => exact List.prefix_rfl
  | cons k ks ih => exact (ready_follow g f k).trans (ih _)

/-- The target of a new link waits for it, and for one link less afterwards. -/
theorem Counts.follow_new (c : f.Counts g) (h : g.Sound) {l : Link} (listed : l ∈ g.links.values)
    (new : f.followed.contains l.id = false) :
    ∃ count, f.waiting.find? l.target = some (count + 1) ∧
      (f.follow g l.id).followed = f.followed.insert l.id () ∧
      ∀ id, (f.follow g l.id).waiting.find? id =
        if id = l.target then (if count = 0 then none else some count) else f.waiting.find? id := by
  have awaits := c.awaited l.target
  rw [awaited_insert h listed new, if_pos rfl] at awaits
  obtain ⟨count, waits⟩ : ∃ count, f.waiting.find? l.target = some (count + 1) := by
    cases waits : f.waiting.find? l.target with
    | none => simp [waits] at awaits
    | some count =>
      cases count with
      | zero => exact absurd waits (c.positive _)
      | succ count => exact ⟨count, rfl⟩
  have found : g.link? l.id = some l := h.mem_values_iff.1 listed
  refine ⟨count, waits, ?_⟩
  simp only [Front.follow, found, new, waits, Nat.add_sub_cancel, Bool.false_eq_true, if_false]
  split
  · next last => exact ⟨rfl, fun id => by rw [SortedMap.find?_erase]⟩
  · next more => exact ⟨rfl, fun id => by rw [SortedMap.find?_insert]⟩

theorem Counts.follow (c : f.Counts g) (h : g.Sound) (k : LinkId) : (f.follow g k).Counts g := by
  cases found : g.links.find? k with
  | none =>
    unfold Front.follow
    simp only [link?, found]
    exact c
  | some l =>
    obtain rfl := h.keyed k l found
    by_cases old : f.followed.contains l.id = true
    · unfold Front.follow
      simp only [link?, found, old, if_true]
      exact c
    · have listed := h.mem_values_iff.2 found
      have new := Bool.eq_false_iff.2 old
      obtain ⟨count, waits, followed, waiting⟩ := c.follow_new h listed new
      constructor
      · intro id
        have before := c.awaited id
        rw [awaited_insert h listed new] at before
        rw [Front.awaited, followed, waiting]
        by_cases same : id = l.target
        · subst same
          rw [waits, if_pos rfl, Option.getD_some] at before
          rw [if_pos rfl]
          split
          · rw [Option.getD_none]
            omega
          · rw [Option.getD_some]
            omega
        · rw [if_neg same] at before
          rw [if_neg same]
          exact before
      · intro id
        rw [waiting]
        split
        · split
          · simp
          · next more => exact fun zero => more (Option.some.inj zero)
        · exact c.positive id

theorem Counts.followAll (c : f.Counts g) (h : g.Sound) (ks : List LinkId) :
    (ks.foldl (Front.follow g) f).Counts g := by
  induction ks generalizing f with
  | nil => exact c
  | cons k ks ih => exact ih (c.follow h k)

theorem Counts.mem_waiting_iff (c : f.Counts g) {id : NodeId} :
    id ∈ f.waiting.keys ↔
      ∃ l ∈ g.links.values, l.target = id ∧ f.followed.contains l.id = false := by
  have waits : id ∈ f.waiting.keys ↔ 0 < f.awaited g id := by
    rw [SortedMap.mem_keys_iff, SortedMap.contains, c.awaited]
    cases waits : f.waiting.find? id with
    | none => simp
    | some count =>
      have positive : count ≠ 0 := fun zero => c.positive id (zero ▸ waits)
      simpa using Nat.pos_of_ne_zero positive
  rw [waits, Front.awaited, List.countP_pos_iff]
  simp

/-- What the queue keeps. The links that start at placed nodes are followed, and no others; so a
node is placed after every node that leads to it. -/
structure Follows (g : Graph) (placed : List NodeId) (f : Front) : Prop where
  perm : (placed ++ f.unplaced).Perm (g.nodes.map (·.id))
  counts : f.Counts g
  followed : ∀ l ∈ g.links.values, f.followed.contains l.id = true ↔ l.origin ∈ placed
  before : ∀ a b, g.Feeds a b → b ∈ placed → placed.idxOf a < placed.idxOf b

variable {placed : List NodeId}

/-- A link into a node that does not wait starts at a placed node. -/
theorem Follows.origin_placed (t : f.Follows g placed) {a b : NodeId} (feeds : g.Feeds a b)
    (free : b ∉ f.waiting.keys) : a ∈ placed := by
  obtain ⟨l, hl, rfl, rfl⟩ := feeds
  rw [t.counts.mem_waiting_iff] at free
  apply (t.followed l hl).1
  by_contra new
  exact free ⟨l, hl, rfl, Bool.eq_false_iff.2 new⟩

theorem Follows.step (t : f.Follows g placed) (c : g.Consistent) {id : NodeId}
    {ready : List NodeId} (first : f.ready = id :: ready) :
    ((g.outgoing id).foldl (Front.follow g) { f with ready }).Follows g (placed ++ [id]) := by
  have split : f.unplaced = id :: ({ f with ready } : Front).unplaced := by
    rw [unplaced, first]
    rfl
  have distinct : (placed ++ f.unplaced).Nodup := t.perm.nodup_iff.2 c.distinct
  have free : id ∉ f.waiting.keys := by
    rw [unplaced, first, List.cons_append, List.nodup_append] at distinct
    intro waits
    exact (List.nodup_cons.1 distinct.2.1).1 (List.mem_append_right _ waits)
  have unplaced : id ∉ placed := by
    rw [split, List.nodup_append] at distinct
    intro mem
    exact distinct.2.2 id mem id List.mem_cons_self rfl
  constructor
  case perm =>
    have rest := followAll_unplaced g { f with ready } (g.outgoing id)
    have perm := t.perm
    rw [split] at perm
    rw [List.append_assoc]
    exact ((rest.cons id).append_left placed).trans perm
  case counts =>
    have counts : ({ f with ready } : Front).Counts g := ⟨t.counts.awaited, t.counts.positive⟩
    exact counts.followAll c.toSound _
  case followed =>
    intro l hl
    have filed := c.mem_values_iff.1 hl
    rw [contains_followAll c.toSound, c.mem_outgoing_iff, filed]
    have before := t.followed l hl
    simp only [Option.some.injEq, exists_eq_left', Option.isSome_some, and_true, List.mem_append,
      List.mem_singleton]
    exact or_congr_left before
  case before =>
    intro a b feeds hb
    rcases List.mem_append.1 hb with hb | hb
    · have lt := t.before a b feeds hb
      have ha : a ∈ placed := List.idxOf_lt_length_iff.1 (lt.trans_le List.idxOf_le_length)
      rwa [List.idxOf_append_of_mem ha, List.idxOf_append_of_mem hb]
    · obtain rfl := List.mem_singleton.1 hb
      have ha : a ∈ placed := t.origin_placed feeds free
      rw [List.idxOf_append_of_mem ha, List.idxOf_append_of_notMem unplaced]
      exact Nat.lt_add_right _ (List.idxOf_lt_length_iff.2 ha)

theorem Follows.start (c : g.Consistent) : (Front.start g).Follows g [] where
  perm := start_unplaced c.distinct
  counts := by
    have waits (id : NodeId) (count : Nat) : (Front.start g).waiting.find? id = some count ↔
        ∃ n ∈ g.nodes, n.id = id ∧ g.boundInputs n ≠ 0 ∧ g.boundInputs n = count := by
      rw [Front.start, SortedMap.find?_ofList_eq_some_iff]
      · simp only [List.mem_map, List.mem_filter, Prod.mk.injEq, decide_eq_true_eq]
        constructor
        · rintro ⟨n, ⟨hn, bound⟩, hid, count⟩
          exact ⟨n, hn, hid, bound, count⟩
        · rintro ⟨n, hn, hid, bound, count⟩
          exact ⟨n, ⟨hn, bound⟩, hid, count⟩
      · rw [List.map_map]
        exact c.distinct.sublist (List.filter_sublist.map _)
    have all (id : NodeId) : (Front.start g).awaited g id =
        g.links.values.countP fun l => decide (l.target = id) := by
      apply List.countP_congr
      intro l _
      simp [Front.start, SortedMap.contains]
    constructor
    · intro id
      rw [all]
      cases found : (Front.start g).waiting.find? id with
      | some count =>
        obtain ⟨n, hn, rfl, _, rfl⟩ := (waits id count).1 found
        exact (c.boundInputs_eq hn).symm
      | none =>
        rw [Option.getD_none, List.countP_eq_zero]
        intro l hl target
        obtain ⟨n, hn, hid, _⟩ := c.enters _ l (c.mem_values_iff.1 hl)
        rw [decide_eq_true_eq] at target
        have bound : g.boundInputs n ≠ 0 := by
          rw [c.boundInputs_eq hn]
          apply Nat.ne_of_gt
          exact List.countP_pos_iff.2 ⟨l, hl, by simp [hid]⟩
        rw [(waits id _).2 ⟨n, hn, hid.trans target, bound, rfl⟩] at found
        cases found
    · intro id found
      obtain ⟨n, _, _, bound, none⟩ := (waits id 0).1 found
      exact bound none
  followed l _ := by simp [Front.start, SortedMap.contains]
  before _ _ _ hb := by cases hb

end Front

section Outcome

/-- How the queue ends: the nodes that it has placed and the state in which it has run dry. -/
def drained (g : Graph) : List NodeId × Front := g.drain g.nodes.length (Front.start g)

def queued (g : Graph) : List NodeId := g.drained.1

def stuck (g : Graph) : List NodeId := g.drained.2.waiting.keys

theorem drained_dry (g : Graph) : g.drained.2.ready = [] :=
  drain_dry (Front.length_unplaced_start g)

theorem executionOrder_eq_append (g : Graph) : g.executionOrder = g.queued ++ g.stuck :=
  place_eq_drain g _ _

theorem ready_prefix_drain {steps : Nat} (enough : f.unplaced.length ≤ steps) :
    f.ready <+: (g.drain steps f).1 := by
  induction steps generalizing f with
  | zero =>
    have none : f.unplaced = [] := List.length_eq_zero_iff.1 (Nat.le_zero.1 enough)
    rw [(List.append_eq_nil_iff.1 none).1]
    exact List.nil_prefix
  | succ steps ih =>
    cases first : f.ready with
    | nil => exact List.nil_prefix
    | cons id ready =>
      have fewer := length_unplaced_lt (g := g) first
      rw [drain_of_ready first]
      apply (List.prefix_cons_inj id).2
      exact (Front.ready_followAll g { f with ready } _).trans (ih (by omega))

theorem Consistent.follows (c : g.Consistent) : g.drained.2.Follows g g.queued :=
  drain_invariant (P := fun placed f => f.Follows g placed)
    (fun _ _ _ _ first t => t.step c first) _ (.start c)

theorem Consistent.seeds_first (c : g.Consistent) :
    ∃ seeds rest, g.queued = seeds ++ rest ∧ seeds.Sublist (g.nodes.map (·.id)) ∧
      ∀ n ∈ g.nodes, n.id ∈ seeds ↔ ∀ slot, g.inputLink? n.id slot = none := by
  obtain ⟨rest, eq⟩ := ready_prefix_drain (g := g) (Front.length_unplaced_start g)
  refine ⟨_, rest, eq.symm, List.filter_sublist.map _, ?_⟩
  intro n hn
  rw [← boundInputs_eq_zero_iff c.toSound hn, Front.start, List.mem_map]
  constructor
  · rintro ⟨m, hm, same⟩
    obtain ⟨hm, unbound⟩ := List.mem_filter.1 hm
    obtain rfl := List.inj_on_of_nodup_map c.distinct hm hn same
    exact of_decide_eq_true unbound
  · intro unbound
    exact ⟨n, List.mem_filter.2 ⟨hn, decide_eq_true unbound⟩, rfl⟩

/-- Something that is stuck leads to each stuck node. -/
theorem Consistent.stuck_led (c : g.Consistent) : ∀ b ∈ g.stuck, ∃ a ∈ g.stuck, g.Feeds a b := by
  intro b hb
  have t := c.follows
  obtain ⟨l, hl, target, new⟩ := t.counts.mem_waiting_iff.1 hb
  obtain ⟨n, hn, hid, _⟩ := c.leaves _ l (c.mem_values_iff.1 hl)
  have placed := t.perm.mem_iff.2 (List.mem_map_of_mem hn)
  rw [hid, Front.unplaced, g.drained_dry, List.nil_append, List.mem_append] at placed
  rcases placed with placed | stuck
  · rw [(t.followed l hl).2 placed] at new
    cases new
  · exact ⟨l.origin, stuck, l, hl, rfl, target⟩

theorem Consistent.mem_queued_iff (c : g.Consistent) {n : Node} (hn : n ∈ g.nodes) :
    n.id ∈ g.queued ↔ ¬Tangled g.Feeds n.id := by
  constructor
  · exact not_tangled_of_before c.follows.before
  · intro loose
    have placed := (executionOrder_perm c.distinct).mem_iff.2 (List.mem_map_of_mem hn)
    rw [executionOrder_eq_append, List.mem_append] at placed
    exact placed.resolve_right fun stuck => loose (tangled_of_stuck c.stuck_led stuck)

theorem Consistent.origin_first (c : g.Consistent) {l : Link} (hl : l ∈ g.links.values)
    (free : l.target ∉ g.stuck) :
    g.executionOrder.idxOf l.origin < g.executionOrder.idxOf l.target := by
  obtain ⟨n, hn, hid, _⟩ := c.enters _ l (c.mem_values_iff.1 hl)
  have placed := (executionOrder_perm c.distinct).mem_iff.2 (List.mem_map_of_mem hn)
  rw [executionOrder_eq_append, List.mem_append, hid] at placed
  have target := placed.resolve_right free
  have lt := c.follows.before _ _ ⟨l, hl, rfl, rfl⟩ target
  have origin := List.idxOf_lt_length_iff.1 (lt.trans_le List.idxOf_le_length)
  rwa [executionOrder_eq_append, List.idxOf_append_of_mem origin, List.idxOf_append_of_mem target]

end Outcome

/-- The queue runs dry, so more steps change nothing, and the order lists every node once. If slots
and links agree, the order starts with the nodes without bound inputs as they were added; the queue
places just the nodes that are neither on a cycle of links nor behind one, each after those that
lead to it; and the others follow, ascending. -/
theorem executionOrder_follows_links (g : Graph) :
    g.drained.2.ready = [] ∧
    (∀ steps, g.nodes.length ≤ steps → g.place steps (Front.start g) = g.executionOrder) ∧
    ((g.nodes.map (·.id)).Nodup → g.executionOrder.Perm (g.nodes.map (·.id))) ∧
    (g.Consistent →
      g.executionOrder = g.queued ++ g.stuck ∧
        (∃ seeds rest, g.queued = seeds ++ rest ∧ seeds.Sublist (g.nodes.map (·.id)) ∧
          ∀ n ∈ g.nodes, n.id ∈ seeds ↔ ∀ slot, g.inputLink? n.id slot = none) ∧
        (∀ n ∈ g.nodes, n.id ∈ g.queued ↔ ¬Tangled g.Feeds n.id) ∧
        g.stuck.Pairwise (· < ·) ∧
        ∀ l ∈ g.links.values, l.target ∉ g.stuck →
          g.executionOrder.idxOf l.origin < g.executionOrder.idxOf l.target) := by
  refine ⟨g.drained_dry, ?_, executionOrder_perm, ?_⟩
  · intro steps le
    exact place_of_le (Front.length_unplaced_start g) le
  · intro c
    refine ⟨executionOrder_eq_append g, c.seeds_first, ?_, SortedMap.keys_ascending _, ?_⟩
    · intro n hn
      exact c.mem_queued_iff hn
    · intro l hl free
      exact c.origin_first hl free

/-- Two links between the same nodes, a loop, and a node behind the loop that was added first. -/
theorem executionOrder_of_tangled :
    let node (type : String) : Node := {
      type := type, inputs := [{ name := "a" }, { name := "b" }], outputs := [{ name := "out" }] }
    ∃ g, Graph.empty.run [.addNode (node "Behind"), .addNode (node "Sink"), .addNode (node "Loop"),
        .addNode (node "Source"), .connect 4 0 2 0, .connect 4 0 2 1, .connect 3 0 3 1,
        .connect 3 0 1 0, .connect 2 0 1 1] = some g ∧
      g.Consistent ∧ g.executionOrder = [4, 2, 1, 3] ∧ g.stuck = [1, 3] ∧ Tangled g.Feeds 1 ∧
      ¬Tangled g.Feeds 2 := by
  intro node
  let ops : List Operation := [.addNode (node "Behind"), .addNode (node "Sink"),
    .addNode (node "Loop"), .addNode (node "Source"), .connect 4 0 2 0, .connect 4 0 2 1,
    .connect 3 0 3 1, .connect 3 0 1 0, .connect 2 0 1 1]
  let g := (Graph.empty.run ops).get (by decide)
  have ran : Graph.empty.run ops = some g := (Option.some_get _).symm
  have bare (type : String) : (node type).Bare := ⟨by simp [node], by simp [node]⟩
  have reachable : Reachable (fun _ op => op.Clean) g :=
    .of_run .empty (by simp [ops, Operation.Clean, bare]) ran
  have c := reachable.consistent
  obtain ⟨_, _, _, links⟩ := executionOrder_follows_links g
  obtain ⟨_, _, placed, _⟩ := links c
  have order : g.executionOrder = [4, 2, 1, 3] := by decide
  have stuck : g.stuck = [1, 3] := by decide
  have queued : g.queued = [4, 2] := by decide
  have tangled {id : NodeId} (known : ∃ n ∈ g.nodes, n.id = id) :
      Tangled g.Feeds id ↔ id ∉ [4, 2] := by
    obtain ⟨n, hn, rfl⟩ := known
    rw [← queued, placed n hn, not_not]
  refine ⟨g, ran, c, order, stuck, ?_, ?_⟩
  · exact (tangled (by decide)).2 (by decide)
  · exact mt (tangled (by decide)).1 (by decide)

end Graph

end Flowgraph
