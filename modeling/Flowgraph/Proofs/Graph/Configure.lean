import Flowgraph.Proofs.Graph.Sound

namespace Flowgraph.Graph

variable {types : TypeRegistry} {s : Snapshot} {g g' : Graph}

theorem configureNode_ok {n : NodeRecord} (ok : configureNode types g n = .ok g') :
    g.hasNode n.id = false ∧ g' = g.push (n.toNode types) (max g.lastNode n.id) := by
  unfold configureNode at ok
  split at ok
  · cases ok
  · next free =>
    cases ok
    exact ⟨by simpa using free, rfl⟩

theorem configureLink_ok {l : Link} (ok : configureLink g l = .ok g') :
    g.admits l = true ∧ g.links.find? l.id = none ∧ g' = g.file l (max g.lastLink l.id) := by
  unfold configureLink at ok
  split at ok
  · cases ok
  · next admitted =>
    split at ok
    · cases ok
    · next free =>
      cases ok
      exact ⟨by simpa using admitted, by simpa [SortedMap.contains] using free, rfl⟩

theorem Sound.configureNode (h : g.Sound) {n : NodeRecord}
    (ok : configureNode types g n = .ok g') : g'.Sound := by
  obtain ⟨free, rfl⟩ := configureNode_ok ok
  exact h.push free _

theorem Bounded.configureNode (h : g.Bounded) {n : NodeRecord}
    (ok : configureNode types g n = .ok g') : g'.Bounded := by
  obtain ⟨_, rfl⟩ := configureNode_ok ok
  exact h.push _

theorem Sound.configureLink (h : g.Sound) {l : Link} (ok : configureLink g l = .ok g') :
    g'.Sound := by
  obtain ⟨admitted, _, rfl⟩ := configureLink_ok ok
  simp only [admits, Bool.and_eq_true, Option.any_eq_true, decide_eq_true_eq] at admitted
  obtain ⟨⟨o, ho, hos⟩, ⟨t, ht, hts⟩⟩ := admitted
  obtain ⟨mem, hid⟩ := h.node?_eq_some_iff.1 ho
  obtain ⟨mem', hid'⟩ := h.node?_eq_some_iff.1 ht
  exact h.file _ ⟨o, mem, hid, hos⟩ ⟨t, mem', hid', hts⟩

theorem Bounded.configureLink (h : g.Bounded) {l : Link} (ok : configureLink g l = .ok g') :
    g'.Bounded := by
  obtain ⟨_, _, rfl⟩ := configureLink_ok ok
  exact h.file (Int.le_max_left _ _) (Int.le_max_right _ _)

theorem foldlM_cons_ok {α β ε : Type} {f : β → α → Except ε β} {a : α} {l : List α} {b b' : β}
    (ok : (a :: l).foldlM f b = .ok b') : ∃ c, f b a = .ok c ∧ l.foldlM f c = .ok b' := by
  rw [List.foldlM_cons] at ok
  cases first : f b a with
  | error e =>
    rw [first] at ok
    cases ok
  | ok c =>
    rw [first] at ok
    exact ⟨c, rfl, ok⟩

theorem foldlM_ok_invariant {α β ε : Type} {P : β → Prop} {f : β → α → Except ε β}
    (keep : ∀ b a b', P b → f b a = .ok b' → P b') {l : List α} {b b' : β} (start : P b)
    (ok : l.foldlM f b = .ok b') : P b' := by
  induction l generalizing b with
  | nil =>
    cases ok
    exact start
  | cons a l ih =>
    obtain ⟨c, first, ok⟩ := foldlM_cons_ok ok
    exact ih (keep b a c start first) ok

theorem configureNodes_ok {ns : List NodeRecord}
    (ok : ns.foldlM (configureNode types) g = .ok g') :
    g'.nodes = g.nodes ++ ns.map (·.toNode types) ∧ g'.links = g.links := by
  induction ns generalizing g with
  | nil =>
    cases ok
    simp
  | cons n ns ih =>
    obtain ⟨c, first, ok⟩ := foldlM_cons_ok ok
    obtain ⟨nodes, links⟩ := ih ok
    obtain ⟨_, rfl⟩ := configureNode_ok first
    rw [nodes, links]
    simp [Graph.push]

theorem configureLinks_ok {ls : List Link} (ok : ls.foldlM configureLink g = .ok g') :
    g'.nodes = g.nodes ∧ ∀ id l, g'.links.find? id = some l ↔
      (l ∈ ls ∧ l.id = id) ∨ g.links.find? id = some l := by
  induction ls generalizing g with
  | nil =>
    cases ok
    simp
  | cons k ls ih =>
    obtain ⟨c, first, ok⟩ := foldlM_cons_ok ok
    obtain ⟨nodes, links⟩ := ih ok
    obtain ⟨_, free, rfl⟩ := configureLink_ok first
    refine ⟨nodes, fun id l => ?_⟩
    rw [links]
    simp only [Graph.file, SortedMap.find?_insert, List.mem_cons]
    -- An id that is taken is refused, so the link displaces none.
    by_cases same : id = k.id
    · subst same
      simp only [if_true, Option.some.injEq, free, reduceCtorEq, or_false]
      constructor
      · rintro (⟨mem, hid⟩ | rfl)
        · exact ⟨.inr mem, hid⟩
        · exact ⟨.inl rfl, rfl⟩
      · rintro ⟨rfl | mem, hid⟩
        · exact .inr rfl
        · exact .inl ⟨mem, hid⟩
    · simp only [if_neg same]
      constructor
      · rintro (⟨mem, hid⟩ | found)
        · exact .inl ⟨.inr mem, hid⟩
        · exact .inr found
      · rintro (⟨rfl | mem, hid⟩ | found)
        · exact absurd hid.symm same
        · exact .inl ⟨mem, hid⟩
        · exact .inr found

theorem ofSnapshot_eq_ok (ok : ofSnapshot s types = .ok g) :
    ∃ g₁ g₂, s.nodes.foldlM (configureNode types)
        { groups := s.groups, config := s.config, extra := s.extra, other := s.other } = .ok g₁ ∧
      s.links.foldlM configureLink g₁ = .ok g₂ ∧
      g = { g₂ with
        lastNode := max g₂.lastNode s.lastNode
        lastLink := max g₂.lastLink s.lastLink } := by
  unfold ofSnapshot at ok
  simp only [bind, Except.bind] at ok
  split at ok
  · cases ok
  · next g₁ first =>
    split at ok
    · cases ok
    · next g₂ second =>
      cases ok
      exact ⟨g₁, g₂, first, second, rfl⟩

/-- A graph built from a snapshot has its nodes and links, is sound, and its counters cover them. -/
theorem ofSnapshot_ok (ok : ofSnapshot s types = .ok g) :
    g.nodes = s.nodes.map (·.toNode types) ∧
      (∀ id l, g.links.find? id = some l ↔ l ∈ s.links ∧ l.id = id) ∧ g.Sound ∧ g.Bounded := by
  obtain ⟨g₁, g₂, first, second, rfl⟩ := ofSnapshot_eq_ok ok
  obtain ⟨nodes, links⟩ := configureNodes_ok first
  obtain ⟨nodes', links'⟩ := configureLinks_ok second
  have sound₁ : g₁.Sound :=
    foldlM_ok_invariant (fun _ _ _ h ok => h.configureNode ok) Sound.empty first
  have sound₂ : g₂.Sound :=
    foldlM_ok_invariant (fun _ _ _ h ok => h.configureLink ok) sound₁ second
  have bounded₁ : g₁.Bounded :=
    foldlM_ok_invariant (fun _ _ _ h ok => h.configureNode ok) Bounded.empty first
  have bounded₂ : g₂.Bounded :=
    foldlM_ok_invariant (fun _ _ _ h ok => h.configureLink ok) bounded₁ second
  refine ⟨by simpa [nodes] using nodes', fun id l => ?_, ?_, ?_⟩
  · rw [links', links]
    simp
  · exact ⟨sound₂.distinct, sound₂.indexed, sound₂.keyed, sound₂.leaves, sound₂.enters⟩
  · exact ⟨fun n hn => Int.le_trans (bounded₂.nodes n hn) (Int.le_max_left _ _),
      fun id l found => Int.le_trans (bounded₂.links id l found) (Int.le_max_left _ _)⟩

section Rest

/-- What a graph carries along without looking at it. -/
def carried (g : Graph) : List Json.Value × Json.Members × Json.Members × Json.Members :=
  (g.groups, g.config, g.extra, g.other)

theorem configureNodes_rest {ns : List NodeRecord}
    (ok : ns.foldlM (configureNode types) g = .ok g') :
    g'.carried = g.carried ∧ g'.lastLink = g.lastLink ∧
      g'.lastNode = (ns.map (·.id)).foldl max g.lastNode := by
  induction ns generalizing g with
  | nil =>
    cases ok
    exact ⟨rfl, rfl, rfl⟩
  | cons n ns ih =>
    obtain ⟨c, first, ok⟩ := foldlM_cons_ok ok
    obtain ⟨_, rfl⟩ := configureNode_ok first
    exact ih ok

theorem configureLinks_rest {ls : List Link} (ok : ls.foldlM configureLink g = .ok g') :
    g'.carried = g.carried ∧ g'.lastNode = g.lastNode ∧
      g'.lastLink = (ls.map (·.id)).foldl max g.lastLink := by
  induction ls generalizing g with
  | nil =>
    cases ok
    exact ⟨rfl, rfl, rfl⟩
  | cons l ls ih =>
    obtain ⟨c, first, ok⟩ := foldlM_cons_ok ok
    obtain ⟨_, _, rfl⟩ := configureLink_ok first
    exact ih ok

theorem configureLinks_distinct {ls : List Link} (ok : ls.foldlM configureLink g = .ok g') :
    (ls.map (·.id)).Nodup ∧ ∀ l ∈ ls, g.links.find? l.id = none := by
  induction ls generalizing g with
  | nil => simp
  | cons k ls ih =>
    obtain ⟨c, first, ok⟩ := foldlM_cons_ok ok
    obtain ⟨_, free, rfl⟩ := configureLink_ok first
    obtain ⟨distinct, absent⟩ := ih ok
    have apart : ∀ l ∈ ls, l.id ≠ k.id ∧ g.links.find? l.id = none := by
      intro l hl
      have none := absent l hl
      simp only [Graph.file, SortedMap.find?_insert] at none
      split at none
      · cases none
      · next other => exact ⟨other, none⟩
    refine ⟨List.nodup_cons.2 ⟨?_, distinct⟩, ?_⟩
    · intro mem
      obtain ⟨l, hl, same⟩ := List.mem_map.1 mem
      exact (apart l hl).1 same
    · intro l hl
      rcases List.mem_cons.1 hl with rfl | hl
      · exact free
      · exact (apart l hl).2

/-- The counters of a graph built from a snapshot are the largest of nought, the stored counters and
the ids; the rest is carried over. -/
theorem ofSnapshot_rest (ok : ofSnapshot s types = .ok g) :
    g.carried = (s.groups, s.config, s.extra, s.other) ∧
      g.lastNode = max ((s.nodes.map (·.id)).foldl max 0) s.lastNode ∧
      g.lastLink = max ((s.links.map (·.id)).foldl max 0) s.lastLink ∧
      (s.links.map (·.id)).Nodup := by
  obtain ⟨g₁, g₂, first, second, rfl⟩ := ofSnapshot_eq_ok ok
  obtain ⟨carried, link, node⟩ := configureNodes_rest first
  obtain ⟨carried', node', link'⟩ := configureLinks_rest second
  refine ⟨carried'.trans carried, ?_, ?_, (configureLinks_distinct second).1⟩
  · rw [node', node]
  · rw [link', link]

theorem foldl_max_le_iff {ids : List Int} {a b : Int} :
    ids.foldl max a ≤ b ↔ a ≤ b ∧ ∀ id ∈ ids, id ≤ b := by
  induction ids generalizing a with
  | nil => simp
  | cons id ids ih =>
    rw [List.foldl_cons, ih, List.forall_mem_cons, Int.max_le, and_assoc]

end Rest

section Success

theorem hasNode_push (g : Graph) (n : Node) (last : NodeId) (id : NodeId) :
    (g.push n last).hasNode id = (decide (id = n.id) || g.hasNode id) := by
  simp only [hasNode, SortedMap.contains, push, SortedMap.find?_insert]
  by_cases same : id = n.id <;> simp [same]

theorem configureNodes_succeeds {ns : List NodeRecord} (distinct : (ns.map (·.id)).Nodup)
    (free : ∀ n ∈ ns, g.hasNode n.id = false) :
    ∃ g', ns.foldlM (configureNode types) g = .ok g' := by
  induction ns generalizing g with
  | nil => exact ⟨g, rfl⟩
  | cons n ns ih =>
    obtain ⟨apart, distinct⟩ := List.nodup_cons.1 distinct
    have here := free n List.mem_cons_self
    have step : configureNode types g n =
        .ok (g.push (n.toNode types) (max g.lastNode n.id)) := by
      simp only [configureNode, here]
      rfl
    have later : ∀ m ∈ ns,
        (g.push (n.toNode types) (max g.lastNode n.id)).hasNode m.id = false := by
      intro m hm
      have other : m.id ≠ (n.toNode types).id := fun same => apart (List.mem_map.2 ⟨m, hm, same⟩)
      rw [hasNode_push, free m (List.mem_cons_of_mem _ hm)]
      simp [other]
    obtain ⟨g', ok⟩ := ih distinct later
    exact ⟨g', by rw [List.foldlM_cons, step]; exact ok⟩

theorem configureLinks_succeeds {ls : List Link} (distinct : (ls.map (·.id)).Nodup)
    (free : ∀ l ∈ ls, g.links.find? l.id = none) (admitted : ∀ l ∈ ls, g.admits l = true) :
    ∃ g', ls.foldlM configureLink g = .ok g' := by
  induction ls generalizing g with
  | nil => exact ⟨g, rfl⟩
  | cons l ls ih =>
    obtain ⟨apart, distinct⟩ := List.nodup_cons.1 distinct
    have here := free l List.mem_cons_self
    have fits := admitted l List.mem_cons_self
    have step : configureLink g l = .ok (g.file l (max g.lastLink l.id)) := by
      simp only [configureLink, fits, SortedMap.contains, here]
      rfl
    have later : ∀ k ∈ ls, (g.file l (max g.lastLink l.id)).links.find? k.id = none := by
      intro k hk
      have other : k.id ≠ l.id := fun same => apart (List.mem_map.2 ⟨k, hk, same⟩)
      simp only [file, SortedMap.find?_insert, if_neg other]
      exact free k (List.mem_cons_of_mem _ hk)
    obtain ⟨g', ok⟩ := ih distinct later fun k hk => admitted k (List.mem_cons_of_mem _ hk)
    exact ⟨g', by rw [List.foldlM_cons, step]; exact ok⟩

/-- A snapshot whose ids are distinct and whose links end at slots of its nodes describes a
graph. -/
theorem ofSnapshot_succeeds (nodes : (s.nodes.map (·.id)).Nodup)
    (links : (s.links.map (·.id)).Nodup)
    (leaves : ∀ l ∈ s.links, ∃ n ∈ s.nodes, n.id = l.origin ∧
      l.originSlot < (n.toNode types).outputs.length)
    (enters : ∀ l ∈ s.links, ∃ n ∈ s.nodes, n.id = l.target ∧
      l.targetSlot < (n.toNode types).inputs.length) :
    ∃ g, ofSnapshot s types = .ok g := by
  let start : Graph :=
    { groups := s.groups, config := s.config, extra := s.extra, other := s.other }
  obtain ⟨g₁, first⟩ : ∃ g₁, s.nodes.foldlM (configureNode types) start = .ok g₁ :=
    configureNodes_succeeds nodes fun n _ => rfl
  have sound : g₁.Sound :=
    foldlM_ok_invariant (fun _ _ _ h ok => h.configureNode ok) Sound.empty first
  obtain ⟨listed, empty⟩ := configureNodes_ok first
  have found {n : NodeRecord} (hn : n ∈ s.nodes) : g₁.node? n.id = some (n.toNode types) := by
    refine sound.node?_eq_some_iff.2 ⟨?_, rfl⟩
    rw [listed]
    exact List.mem_append_right _ (List.mem_map_of_mem hn)
  have admitted : ∀ l ∈ s.links, g₁.admits l = true := by
    intro l hl
    obtain ⟨o, ho, origin, outs⟩ := leaves l hl
    obtain ⟨t, ht, target, ins⟩ := enters l hl
    simp [admits, ← origin, ← target, found ho, found ht, outs, ins]
  obtain ⟨g₂, second⟩ := configureLinks_succeeds links (fun l _ => by rw [empty]; rfl) admitted
  refine ⟨{ g₂ with
    lastNode := max g₂.lastNode s.lastNode
    lastLink := max g₂.lastLink s.lastLink }, ?_⟩
  simp only [start] at first
  simp only [ofSnapshot, first, bind, Except.bind, second]
  rfl

end Success

end Flowgraph.Graph
