import Flowgraph.Proofs.Identifier.Order

namespace Flowgraph.Identifier

/-- The number that characters spell in base 64, each by its place in the alphabet, most
significant first. -/
def number (cs : List Char) : Nat := value (cs.map (alphabet.idxOf ·))

def reading (id : String) : Nat × Nat := (number (id.toList.take 8), number (id.toList.drop 8))

theorem idxOf_digitChar {d : Nat} (small : d < 64) : alphabet.idxOf (digitChar d) = d := by
  have within : d < alphabet.length := alphabet_sorted.1 ▸ small
  have distinct : alphabet.Nodup := alphabet_sorted.2.1.imp fun lt => Char.ne_of_lt lt
  rw [digitChar_eq within]
  exact distinct.idxOf_getElem d within

theorem number_map_digitChar {ds : List Nat} (small : ∀ d ∈ ds, d < 64) :
    number (ds.map digitChar) = value ds := by
  have back : (ds.map digitChar).map (alphabet.idxOf ·) = ds := by
    rw [List.map_map]
    exact (List.map_congr_left fun d hd => idxOf_digitChar (small d hd)).trans (List.map_id' ds)
  rw [number, back]

section Suffixes

variable {s : List Nat}

theorem reading_text {now : Int} (inTime : InTime now) (suffix : IsSuffix s) :
    reading (text now s) = (now.toNat, value s) := by
  have length : ((digits 8 now.toNat).1.map digitChar).length = 8 := by
    rw [List.length_map, length_digits]
  have behind : (text now s).toList.drop 8 = s.map digitChar := by
    rw [text, String.toList_ofList, List.map_append, List.drop_left' length]
  rw [reading, take_text, behind, number_map_digitChar (digits_small 8 _),
    number_map_digitChar suffix.small, (digits_of_inTime inTime).2]

theorem eq_zeros_of_value_eq_zero (suffix : IsSuffix s) (zero : value s = 0) :
    s = List.replicate 12 0 := by
  refine List.eq_replicate_iff.2 ⟨suffix.length, fun d hd => ?_⟩
  exact Nat.digits_zero_of_eq_zero (by decide) zero d (List.mem_reverse.2 hd)

theorem IsSuffix.increment (suffix : IsSuffix s) : IsSuffix (increment s).1 :=
  ⟨(length_increment s).trans suffix.length, increment_small suffix.small⟩

theorem increment_of_lt (suffix : IsSuffix s) (room : value s < 64 ^ 12 - 1) :
    (increment s).2 = false ∧ value (increment s).1 = value s + 1 := by
  have counts := value_increment s
  rw [suffix.length] at counts
  cases carry : (Identifier.increment s).2 with
  | true =>
    rw [carry, Bool.toNat_true] at counts
    omega
  | false =>
    rw [carry, Bool.toNat_false] at counts
    exact ⟨rfl, by omega⟩

theorem increment_of_not_lt (suffix : IsSuffix s) (full : ¬value s < 64 ^ 12 - 1) :
    increment s = (List.replicate 12 0, true) := by
  have counts := value_increment s
  have bound := value_lt suffix.small
  have bound' := value_lt suffix.increment.small
  rw [suffix.length] at counts bound
  rw [suffix.increment.length] at bound'
  cases carry : (Identifier.increment s).2 with
  | false =>
    rw [carry, Bool.toNat_false] at counts
    omega
  | true =>
    rw [carry, Bool.toNat_true] at counts
    have zeros := eq_zeros_of_value_eq_zero suffix.increment (by omega)
    exact Prod.ext zeros carry

theorem increment_succeeds_iff (suffix : IsSuffix s) :
    (Identifier.increment s).2 = false ↔ value s < 64 ^ 12 - 1 := by
  by_cases room : value s < 64 ^ 12 - 1
  · exact iff_of_true (increment_of_lt suffix room).1 room
  · rw [increment_of_not_lt suffix room]
    exact iff_of_false nofun room

end Suffixes

namespace Generator

variable {g : Generator} {d : Draw}

theorem reading_of_draw (suffix : IsSuffix g.suffix) {id : String} (ok : (g.draw d).2 = .ok id) :
    Shaped id ∧ reading id = (d.now.toNat, value (g.draw d).1.suffix) := by
  obtain ⟨inTime, _, proper, rfl⟩ := (drawn_draw suffix d).ok ok
  exact ⟨shaped_text proper, reading_text inTime proper⟩

theorem draw_fails_iff (suffix : IsSuffix g.suffix) (inTime : InTime d.now) :
    (¬∃ id, (g.draw d).2 = .ok id) ↔ g.last = some d.now ∧ value g.suffix = 64 ^ 12 - 1 := by
  have bound := value_lt suffix.small
  rw [suffix.length] at bound
  have drawn := drawn_draw suffix d
  generalize g.draw d = r at drawn
  cases drawn with
  | rejected out => exact absurd inTime out
  | renewed _ other => exact iff_of_false (not_not.2 ⟨_, rfl⟩) fun full => other full.1
  | counted s _ _ proper counts =>
    have bound' := value_lt proper.small
    rw [proper.length] at bound'
    exact iff_of_false (not_not.2 ⟨_, rfl⟩) fun full => by omega
  | exhausted s _ same _ full => exact iff_of_true nofun ⟨same, by omega⟩

theorem draw_counts (suffix : IsSuffix g.suffix) (inTime : InTime d.now)
    (same : g.last = some d.now) (room : value g.suffix < 64 ^ 12 - 1) :
    (g.draw d).1.last = some d.now ∧ IsSuffix (g.draw d).1.suffix ∧
      value (g.draw d).1.suffix = value g.suffix + 1 ∧
      (g.draw d).2.map reading = .ok (d.now.toNat, value g.suffix + 1) := by
  obtain ⟨carry, counts⟩ := increment_of_lt suffix room
  have proper := suffix.increment
  rw [draw_of_same inTime same, carry]
  refine ⟨rfl, proper, counts, congrArg Except.ok ?_⟩
  rw [reading_text inTime proper, counts]

/-- Calls in a millisecond count on from its suffix, as long as there are higher ones. -/
theorem history_counts (suffix : IsSuffix g.suffix) {now : Int} (inTime : InTime now)
    (last : g.last = some now) {ds : List Draw} (same : ∀ d ∈ ds, d.now = now)
    (room : value g.suffix + ds.length < 64 ^ 12) :
    (g.history ds).map (fun x => x.2.map reading) =
      (List.range' (value g.suffix + 1) ds.length).map fun n => .ok (now.toNat, n) := by
  induction ds generalizing g with
  | nil => rfl
  | cons d ds ih =>
    obtain ⟨rfl, same⟩ := List.forall_mem_cons.1 same
    rw [List.length_cons] at room
    obtain ⟨last, proper, counts, answer⟩ := draw_counts suffix inTime last (by omega)
    have later := ih proper last same (by omega)
    rw [history, List.map_cons, answer, later, counts, List.length_cons, List.range'_succ,
      List.map_cons]

/-- A call at a time that fits eight digits answers an identifier, unless the suffix of that time
is the highest, and its characters spell the time and the suffix in base 64; a call at any other
time fails. A suffix counts up by one unless it is the highest, which falls back to zeros, and so
do the suffixes of the identifiers that are made within a millisecond. -/
theorem identifiers_spell_numbers :
    (∀ (g : Generator) (d : Draw), IsSuffix g.suffix → InTime d.now →
      (∀ id, (g.draw d).2 = .ok id →
        Shaped id ∧ reading id = (d.now.toNat, value (g.draw d).1.suffix)) ∧
      ((¬∃ id, (g.draw d).2 = .ok id) ↔ g.last = some d.now ∧ value g.suffix = 64 ^ 12 - 1)) ∧
    (∀ (g : Generator) (now : Int) (fresh : List Nat), ¬InTime now →
      ∃ e, g.generate now fresh = (g, .error e)) ∧
    (∀ s, IsSuffix s →
      ((increment s).2 = false ↔ value s < 64 ^ 12 - 1) ∧
      (value s < 64 ^ 12 - 1 → IsSuffix (increment s).1 ∧ value (increment s).1 = value s + 1) ∧
      (¬value s < 64 ^ 12 - 1 → (increment s).1 = List.replicate 12 0)) ∧
    (∀ (g : Generator) (now : Int) (ds : List Draw), IsSuffix g.suffix → InTime now →
      g.last = some now → (∀ d ∈ ds, d.now = now) → value g.suffix + ds.length < 64 ^ 12 →
      (g.history ds).map (fun x => x.2.map reading) =
        (List.range' (value g.suffix + 1) ds.length).map fun n => .ok (now.toNat, n)) := by
  refine ⟨?_, ?_, ?_, ?_⟩
  · intro g d suffix inTime
    exact ⟨fun id ok => reading_of_draw suffix ok, draw_fails_iff suffix inTime⟩
  · intro g now fresh out
    rw [generate, timeDigits_of_not_inTime out]
    exact ⟨_, rfl⟩
  · intro s suffix
    refine ⟨increment_succeeds_iff suffix, fun room => ?_, fun full => ?_⟩
    · exact ⟨suffix.increment, (increment_of_lt suffix room).2⟩
    · rw [increment_of_not_lt suffix full]
  · intro g now ds suffix inTime last same room
    exact history_counts suffix inTime last same room

/-- Calls count on across a carry, and the highest suffix of a time is the last one. -/
theorem counted_across_carry :
    let g : Generator := ⟨some 42, [0, 0, 0, 0, 0, 0, 0, 0, 0, 0, 5, 63]⟩
    let full : Generator := ⟨some 42, List.replicate 12 63⟩
    let d : Draw := ⟨42, List.replicate 12 9, ⟨rfl, by decide⟩⟩
    (g.history [d, d]).map (fun x => x.2.map reading) = [.ok (42, 384), .ok (42, 385)] ∧
      (¬∃ id, (full.draw d).2 = .ok id) ∧ (increment full.suffix).1 = List.replicate 12 0 ∧
      ∃ e, g.generate (64 ^ 8) d.fresh = (g, .error e) := by
  intro g full d
  obtain ⟨answers, others, counter, run⟩ := identifiers_spell_numbers
  have suffix : IsSuffix g.suffix := ⟨rfl, by decide⟩
  have highest : IsSuffix full.suffix := ⟨rfl, by decide⟩
  have inTime : InTime 42 := by decide
  refine ⟨?_, ?_, ?_, others g _ d.fresh (by decide)⟩
  · exact run g 42 [d, d] suffix inTime rfl (by decide) (by decide)
  · exact (answers full d highest inTime).2.2 ⟨rfl, by decide⟩
  · exact (counter full.suffix highest).2.2 (by decide)

end Generator

end Flowgraph.Identifier
