import Flowgraph.Proofs.Identifier.Digits

namespace Flowgraph.Identifier

def bytes (s : String) : List UInt8 := s.toByteArray.data.toList

/-- Whether a millisecond fits eight digits. -/
def InTime (now : Int) : Prop := 0 ≤ now ∧ now < 64 ^ 8

instance (now : Int) : Decidable (InTime now) := inferInstanceAs (Decidable (_ ∧ _))

structure IsSuffix (ds : List Nat) : Prop where
  length : ds.length = 12
  small : ∀ d ∈ ds, d < 64

def text (now : Int) (suffix : List Nat) : String :=
  String.ofList (((digits 8 now.toNat).1 ++ suffix).map digitChar)

/-- Whether a text has the length and the characters of an identifier. -/
def Shaped (id : String) : Prop := id.length = 20 ∧ ∀ c ∈ id.toList, c ∈ alphabet

section Alphabet

theorem alphabet_sorted : alphabet.length = 64 ∧ alphabet.Pairwise (· < ·) ∧
    ∀ c ∈ alphabet, c.toNat < 128 := by
  have ascii : alphabet.all (fun c => decide (c.toNat < 128)) = true := by decide +kernel
  refine ⟨by decide +kernel, by decide +kernel, fun c hc => ?_⟩
  exact of_decide_eq_true (List.all_eq_true.1 ascii c hc)

variable {d e : Nat}

theorem digitChar_eq (within : d < alphabet.length) : digitChar d = alphabet[d] := by
  rw [digitChar, List.getD_eq_getElem?_getD, List.getElem?_eq_getElem within, Option.getD_some]

theorem digitChar_mem (small : d < 64) : digitChar d ∈ alphabet := by
  have within : d < alphabet.length := alphabet_sorted.1 ▸ small
  rw [digitChar_eq within]
  exact List.getElem_mem within

theorem digitChar_lt (lt : d < e) (small : e < 64) : digitChar d < digitChar e := by
  have within : e < alphabet.length := alphabet_sorted.1 ▸ small
  rw [digitChar_eq (Nat.lt_trans lt within), digitChar_eq within]
  exact List.pairwise_iff_getElem.1 alphabet_sorted.2.1 d e _ within lt

theorem toNat_digitChar_lt (small : d < 64) : (digitChar d).toNat < 128 :=
  alphabet_sorted.2.2 _ (digitChar_mem small)

theorem bytes_ofList {cs : List Char} (ascii : ∀ c ∈ cs, c.toNat < 128) :
    bytes (String.ofList cs) = cs.map (·.val.toUInt8) := by
  have encoded : cs.flatMap String.utf8EncodeChar = cs.map (·.val.toUInt8) := by
    induction cs with
    | nil => rfl
    | cons c cs ih =>
      obtain ⟨first, rest⟩ := List.forall_mem_cons.1 ascii
      have single : c.utf8Size = 1 := Char.utf8Size_eq_one_iff.2 (Nat.le_of_lt_succ first)
      rw [List.flatMap_cons, String.utf8EncodeChar_eq_singleton single, ih rest]
      rfl
  rw [bytes, String.toByteArray_ofList, List.utf8Encode, List.data_toByteArray, encoded]

theorem byte_lt (lt : d < e) (small : e < 64) :
    (digitChar d).val.toUInt8 < (digitChar e).val.toUInt8 := by
  have ascii (f : Nat) (small : f < 64) : (digitChar f).val.toUInt8.toNat = (digitChar f).toNat :=
    Nat.mod_eq_of_lt (Nat.lt_trans (toNat_digitChar_lt small) (by decide))
  have lower := digitChar_lt lt small
  rw [Char.lt_def, UInt32.lt_iff_toNat_lt] at lower
  rw [UInt8.lt_iff_toNat_lt, ascii d (Nat.lt_trans lt small), ascii e small]
  exact lower

theorem map_byte_lt {ds es : List Nat} (small : ∀ e ∈ es, e < 64) (lt : ds < es) :
    ds.map (fun d => (digitChar d).val.toUInt8) < es.map fun d => (digitChar d).val.toUInt8 := by
  induction ds generalizing es with
  | nil =>
    cases es with
    | nil => exact absurd lt (List.lt_irrefl _)
    | cons e es => exact List.nil_lt_cons _ _
  | cons d ds ih =>
    cases es with
    | nil => exact absurd lt (List.not_lt_nil _)
    | cons e es =>
      obtain ⟨first, rest⟩ := List.forall_mem_cons.1 small
      rw [List.map_cons, List.map_cons, List.cons_lt_cons_iff]
      rcases List.cons_lt_cons_iff.1 lt with here | ⟨rfl, later⟩
      · exact .inl (byte_lt here first)
      · exact .inr ⟨rfl, ih rest later⟩

end Alphabet

section Texts

variable {now now' : Int} {s s' : List Nat}

theorem digits_of_inTime (inTime : InTime now) :
    (digits 8 now.toNat).2 = 0 ∧ value (digits 8 now.toNat).1 = now.toNat := by
  obtain ⟨nonneg, lt⟩ := inTime
  have rest : (digits 8 now.toNat).2 = 0 := by
    rw [rest_digits, Nat.div_eq_zero_iff_lt (by decide)]
    omega
  have spelled := value_digits 8 now.toNat
  rw [rest, Nat.mul_zero, Nat.zero_add] at spelled
  exact ⟨rest, spelled⟩

theorem timeDigits_of_inTime (inTime : InTime now) :
    timeDigits now = .ok (digits 8 now.toNat).1 := by
  rw [timeDigits, if_neg (Int.not_lt.2 inTime.1)]
  exact if_neg (not_not.2 (digits_of_inTime inTime).1)

theorem timeDigits_of_not_inTime (out : ¬InTime now) : timeDigits now =
    .error (if now < 0 then .negativeTimestamp now else .timestampTooLarge) := by
  rw [timeDigits]
  split
  · rfl
  · next nonneg =>
    have rest : (digits 8 now.toNat).2 ≠ 0 := by
      intro none
      rw [rest_digits, Nat.div_eq_zero_iff_lt (by decide)] at none
      exact out ⟨by omega, by omega⟩
    exact if_pos rest

theorem text_small (suffix : IsSuffix s) : ∀ d ∈ (digits 8 now.toNat).1 ++ s, d < 64 := by
  intro d hd
  rcases List.mem_append.1 hd with time | random
  · exact digits_small 8 _ d time
  · exact suffix.small d random

theorem shaped_text (suffix : IsSuffix s) : Shaped (text now s) := by
  constructor
  · rw [text, String.length_ofList, List.length_map, List.length_append, length_digits,
      suffix.length]
  · rw [text, String.toList_ofList]
    intro c hc
    obtain ⟨d, hd, rfl⟩ := List.mem_map.1 hc
    exact digitChar_mem (text_small suffix d hd)

theorem bytes_text (suffix : IsSuffix s) : bytes (text now s) =
    ((digits 8 now.toNat).1 ++ s).map fun d => (digitChar d).val.toUInt8 := by
  rw [text, bytes_ofList, List.map_map]
  · rfl
  · intro c hc
    obtain ⟨d, hd, rfl⟩ := List.mem_map.1 hc
    exact toNat_digitChar_lt (text_small suffix d hd)

/-- Identifiers sort like pairs of a time and the number of a suffix. -/
theorem bytes_text_lt (inTime : InTime now) (inTime' : InTime now') (suffix : IsSuffix s)
    (suffix' : IsSuffix s') (lt : now < now' ∨ now = now' ∧ value s < value s') :
    bytes (text now s) < bytes (text now' s') := by
  rw [bytes_text suffix, bytes_text suffix']
  apply map_byte_lt (text_small suffix')
  refine lt_of_value_lt ?_ (text_small suffix) (text_small suffix') ?_
  · rw [List.length_append, List.length_append, length_digits, length_digits, suffix.length,
      suffix'.length]
  · have bound := value_lt suffix.small
    rw [suffix.length] at bound
    rw [value_append, value_append, (digits_of_inTime inTime).2, (digits_of_inTime inTime').2,
      suffix.length, suffix'.length]
    have nonneg := inTime.1
    have nonneg' := inTime'.1
    rcases lt with earlier | ⟨rfl, lower⟩
    · omega
    · omega

theorem take_text (now : Int) (s : List Nat) :
    (text now s).toList.take 8 = (digits 8 now.toNat).1.map digitChar := by
  have length : ((digits 8 now.toNat).1.map digitChar).length = 8 := by
    rw [List.length_map, length_digits]
  rw [text, String.toList_ofList, List.map_append, List.take_left' length]

end Texts

/-- A call on a generator: the time, and twelve random digits for a new suffix. -/
structure Draw where
  now : Int
  fresh : List Nat
  proper : IsSuffix fresh

/-- A call of a run and what it was answered. -/
abbrev Entry := Draw × Except GraphError String

namespace Generator

def draw (g : Generator) (d : Draw) : Generator × Except GraphError String :=
  g.generate d.now d.fresh

/-- The calls of a run with what each was answered. -/
def history (g : Generator) : List Draw → List Entry
  | [] => []
  | d :: ds => (d, (g.draw d).2) :: history (g.draw d).1 ds

/-- What a call does to a generator, and what it answers. -/
inductive Drawn (g : Generator) (d : Draw) : Generator × Except GraphError String → Prop
  | rejected : ¬InTime d.now → Drawn g d (g, .error
      (if d.now < 0 then .negativeTimestamp d.now else .timestampTooLarge))
  | renewed : InTime d.now → g.last ≠ some d.now →
    Drawn g d (⟨some d.now, d.fresh⟩, .ok (text d.now d.fresh))
  | counted (s : List Nat) : InTime d.now → g.last = some d.now → IsSuffix s →
    value s = value g.suffix + 1 → Drawn g d (⟨some d.now, s⟩, .ok (text d.now s))
  | exhausted (s : List Nat) : InTime d.now → g.last = some d.now → IsSuffix s →
    value g.suffix + 1 = 64 ^ 12 → value s = 0 →
    Drawn g d (⟨some d.now, s⟩, .error .suffixExhausted)

variable {g : Generator} {d : Draw}

theorem draw_of_not_inTime (g : Generator) (out : ¬InTime d.now) : g.draw d =
    (g, .error (if d.now < 0 then .negativeTimestamp d.now else .timestampTooLarge)) := by
  rw [draw, generate, timeDigits_of_not_inTime out]

theorem draw_of_other (inTime : InTime d.now) (other : g.last ≠ some d.now) :
    g.draw d = (⟨some d.now, d.fresh⟩, .ok (text d.now d.fresh)) := by
  rw [draw, generate, timeDigits_of_inTime inTime]
  simp only [if_neg other]
  rfl

theorem draw_of_same (inTime : InTime d.now) (same : g.last = some d.now) : g.draw d =
    (⟨some d.now, (increment g.suffix).1⟩, if (increment g.suffix).2 then .error .suffixExhausted
      else .ok (text d.now (increment g.suffix).1)) := by
  rw [draw, generate, timeDigits_of_inTime inTime]
  simp only [if_pos same]
  rfl

theorem drawn_draw (suffix : IsSuffix g.suffix) (d : Draw) : Drawn g d (g.draw d) := by
  by_cases inTime : InTime d.now
  · by_cases same : g.last = some d.now
    · have counts := value_increment g.suffix
      have proper : IsSuffix (increment g.suffix).1 :=
        ⟨(length_increment _).trans suffix.length, increment_small suffix.small⟩
      rw [draw_of_same inTime same]
      cases carry : (increment g.suffix).2 with
      | true =>
        have bound := value_lt suffix.small
        rw [suffix.length] at bound counts
        rw [carry, Bool.toNat_true, Nat.mul_one] at counts
        exact .exhausted _ inTime same proper (by omega) (by omega)
      | false =>
        rw [carry, Bool.toNat_false, Nat.mul_zero, Nat.zero_add] at counts
        exact .counted _ inTime same proper counts
    · rw [draw_of_other inTime same]
      exact .renewed inTime same
  · rw [draw_of_not_inTime g inTime]
    exact .rejected inTime

variable {r : Generator × Except GraphError String}

theorem Drawn.isSuffix (h : Drawn g d r) (suffix : IsSuffix g.suffix) : IsSuffix r.1.suffix := by
  cases h with
  | rejected => exact suffix
  | renewed => exact d.proper
  | counted s _ _ proper => exact proper
  | exhausted s _ _ proper => exact proper

theorem Drawn.exists_ok (h : Drawn g d r) (inTime : InTime d.now)
    (left : r.2 ≠ .error .suffixExhausted) : ∃ id, r.2 = .ok id := by
  cases h with
  | rejected out => exact absurd inTime out
  | renewed => exact ⟨_, rfl⟩
  | counted => exact ⟨_, rfl⟩
  | exhausted => exact absurd rfl left

theorem Drawn.ok {id : String} (h : Drawn g d r) (ok : r.2 = .ok id) :
    InTime d.now ∧ r.1.last = some d.now ∧ IsSuffix r.1.suffix ∧ id = text d.now r.1.suffix := by
  cases h with
  | rejected => cases ok
  | renewed inTime => exact ⟨inTime, rfl, d.proper, (Except.ok.inj ok).symm⟩
  | counted s inTime _ proper => exact ⟨inTime, rfl, proper, (Except.ok.inj ok).symm⟩
  | exhausted => cases ok

/-- As long as a generator is asked for one time only and is not exhausted, it counts up. -/
theorem Drawn.counts_up {now : Int} (h : Drawn g d r) (last : g.last = some now)
    (same : InTime d.now → d.now = now) (left : r.2 ≠ .error .suffixExhausted) :
    r.1.last = some now ∧ value g.suffix ≤ value r.1.suffix ∧
      ∀ id, r.2 = .ok id → value g.suffix < value r.1.suffix := by
  cases h with
  | rejected => exact ⟨last, Nat.le_refl _, fun id ok => nomatch ok⟩
  | renewed inTime other =>
    rw [same inTime] at other
    exact absurd last other
  | counted s inTime _ _ counts =>
    have up : value g.suffix < value s := counts ▸ Nat.lt_succ_self _
    rw [same inTime]
    exact ⟨rfl, Nat.le_of_lt up, fun _ _ => up⟩
  | exhausted => exact absurd rfl left

section Runs

variable {ds : List Draw}

theorem drawn_of_mem_history (suffix : IsSuffix g.suffix) {x : Entry}
    (mem : x ∈ g.history ds) : ∃ g' g'', Drawn g' x.1 (g'', x.2) := by
  induction ds generalizing g with
  | nil => cases mem
  | cons d ds ih =>
    have drawn := drawn_draw suffix d
    rcases List.mem_cons.1 mem with rfl | later
    · exact ⟨g, _, drawn⟩
    · exact ih (drawn.isSuffix suffix) later

theorem ok_of_mem_history (suffix : IsSuffix g.suffix) {x : Entry}
    (mem : x ∈ g.history ds) {id : String} (ok : x.2 = .ok id) :
    InTime x.1.now ∧ ∃ s, IsSuffix s ∧ id = text x.1.now s := by
  obtain ⟨_, _, drawn⟩ := drawn_of_mem_history suffix mem
  obtain ⟨inTime, _, proper, spelled⟩ := drawn.ok ok
  exact ⟨inTime, _, proper, spelled⟩

theorem enter_history (suffix : IsSuffix g.suffix) {before rest : List Entry}
    (run : g.history ds = before ++ rest) :
    ∃ g' ds', IsSuffix g'.suffix ∧ history g' ds' = rest := by
  induction before generalizing g ds with
  | nil => exact ⟨g, ds, suffix, run⟩
  | cons x before ih =>
    cases ds with
    | nil => cases run
    | cons d ds => exact ih ((drawn_draw suffix d).isSuffix suffix) (List.cons.inj run).2

theorem history_eq_cons {x : Entry} {rest : List Entry} (run : g.history ds = x :: rest) :
    ∃ ds', x.2 = (g.draw x.1).2 ∧ (g.draw x.1).1.history ds' = rest := by
  cases ds with
  | nil => cases run
  | cons d ds =>
    obtain ⟨rfl, rest⟩ := List.cons.inj run
    exact ⟨ds, rfl, rest⟩

/-- Calls at a time, and rejected ones, lead to a higher suffix under that time. -/
theorem history_counts_up (suffix : IsSuffix g.suffix) {now : Int} (last : g.last = some now)
    {between after : List Entry} {y : Entry} (run : g.history ds = between ++ y :: after)
    (same : y.1.now = now)
    (quiet : ∀ z ∈ between, (InTime z.1.now → z.1.now = now) ∧ z.2 ≠ .error .suffixExhausted)
    {id : String} (ok : y.2 = .ok id) :
    ∃ s, IsSuffix s ∧ id = text now s ∧ value g.suffix < value s := by
  induction between generalizing g ds with
  | nil =>
    obtain ⟨_, answer, _⟩ := history_eq_cons run
    have drawn := drawn_draw suffix y.1
    rw [answer] at ok
    obtain ⟨_, _, proper, spelled⟩ := drawn.ok ok
    have left : (g.draw y.1).2 ≠ .error .suffixExhausted := by
      rw [ok]
      nofun
    obtain ⟨_, _, up⟩ := drawn.counts_up last (fun _ => same) left
    exact ⟨_, proper, same ▸ spelled, up id ok⟩
  | cons z between ih =>
    obtain ⟨ds', answer, run⟩ := history_eq_cons run
    obtain ⟨⟨same, left⟩, quiet⟩ := List.forall_mem_cons.1 quiet
    have drawn := drawn_draw suffix z.1
    rw [answer] at left
    obtain ⟨last, le, _⟩ := drawn.counts_up last same left
    obtain ⟨s, proper, spelled, lt⟩ := ih (drawn.isSuffix suffix) last run quiet
    exact ⟨s, proper, spelled, Nat.lt_of_le_of_lt le lt⟩

/-- Rejected calls change no other answer. -/
theorem history_filter (g : Generator) (ds : List Draw) :
    g.history (ds.filter fun d => InTime d.now) =
      (g.history ds).filter fun x => InTime x.1.now := by
  induction ds generalizing g with
  | nil => rfl
  | cons d ds ih =>
    by_cases inTime : InTime d.now
    · rw [history, List.filter_cons_of_pos (by simpa using inTime),
        List.filter_cons_of_pos (by simpa using inTime), history, ih]
    · have same : (g.draw d).1 = g := congrArg Prod.fst (draw_of_not_inTime g inTime)
      rw [history, List.filter_cons_of_neg (by simpa using inTime),
        List.filter_cons_of_neg (by simpa using inTime), same, ih]

end Runs

theorem isSuffix_start : IsSuffix ({} : Generator).suffix := ⟨rfl, by decide⟩

/-- In any run of calls on a new generator, at any times in any order and with any random digits:
only times that fit eight digits get an identifier, and they do unless the suffix is exhausted;
identifiers of different times sort like the times; those of one time sort like the calls and begin
alike, unless a call at another time or an exhausted suffix came between; and calls at times that
do not fit are rejected and leave no trace. -/
theorem identifiers_sort_by_time (draws : List Draw) :
    let run := history {} draws
    (∀ x ∈ run, (∀ id, x.2 = .ok id → InTime x.1.now ∧ Shaped id) ∧
      (InTime x.1.now → x.2 ≠ .error .suffixExhausted → ∃ id, x.2 = .ok id)) ∧
    (∀ x ∈ run, ∀ y ∈ run, ∀ id id', x.2 = .ok id → y.2 = .ok id' → x.1.now < y.1.now →
      bytes id < bytes id') ∧
    (∀ (before between after : List Entry) (x y : Entry) (id id' : String),
      run = before ++ x :: (between ++ y :: after) → x.2 = .ok id → y.2 = .ok id' →
      x.1.now = y.1.now →
      (∀ z ∈ between, (InTime z.1.now → z.1.now = x.1.now) ∧ z.2 ≠ .error .suffixExhausted) →
      bytes id < bytes id' ∧ id.toList.take 8 = id'.toList.take 8) ∧
    (∀ (g : Generator) (d : Draw), ¬InTime d.now → g.draw d =
      (g, .error (if d.now < 0 then .negativeTimestamp d.now else .timestampTooLarge))) ∧
    history {} (draws.filter fun d => InTime d.now) = run.filter fun x => InTime x.1.now := by
  intro run
  refine ⟨?_, ?_, ?_, fun g d out => draw_of_not_inTime g out, history_filter {} draws⟩
  · intro x hx
    constructor
    · intro id ok
      obtain ⟨inTime, s, proper, rfl⟩ := ok_of_mem_history isSuffix_start hx ok
      exact ⟨inTime, shaped_text proper⟩
    · intro inTime left
      obtain ⟨_, _, drawn⟩ := drawn_of_mem_history isSuffix_start hx
      exact drawn.exists_ok inTime left
  · intro x hx y hy id id' ok ok' earlier
    obtain ⟨inTime, s, proper, rfl⟩ := ok_of_mem_history isSuffix_start hx ok
    obtain ⟨inTime', s', proper', rfl⟩ := ok_of_mem_history isSuffix_start hy ok'
    exact bytes_text_lt inTime inTime' proper proper' (.inl earlier)
  · intro before between after x y id id' split ok ok' same quiet
    obtain ⟨g, ds, suffix, rest⟩ := enter_history isSuffix_start split
    obtain ⟨ds', answer, rest⟩ := history_eq_cons rest
    have drawn := drawn_draw suffix x.1
    rw [answer] at ok
    obtain ⟨inTime, last, proper, rfl⟩ := drawn.ok ok
    obtain ⟨s, proper', rfl, lt⟩ := history_counts_up proper last rest same.symm quiet ok'
    constructor
    · exact bytes_text_lt inTime inTime proper proper' (.inr ⟨rfl, lt⟩)
    · rw [take_text, take_text]

/-- A suffix carries across a rejected call; then an earlier time gets the highest suffix. -/
theorem sorted_across_rejection :
    let first : Draw := ⟨1000, [0, 0, 0, 0, 0, 0, 0, 0, 0, 0, 5, 63], ⟨rfl, by decide⟩⟩
    let rejected : Draw := ⟨-3, List.replicate 12 7, ⟨rfl, by decide⟩⟩
    let earlier : Draw := ⟨999, List.replicate 12 63, ⟨rfl, by decide⟩⟩
    ∃ id id' id'',
      history {} [first, rejected, first, earlier] =
        [(first, .ok id), (rejected, .error (.negativeTimestamp (-3))), (first, .ok id'),
          (earlier, .ok id'')] ∧
      bytes id < bytes id' ∧ id.toList.take 8 = id'.toList.take 8 ∧ bytes id'' < bytes id := by
  intro first rejected earlier
  have run : history {} [first, rejected, first, earlier] =
      [(first, .ok (text 1000 first.fresh)), (rejected, .error (.negativeTimestamp (-3))),
        (first, .ok (text 1000 [0, 0, 0, 0, 0, 0, 0, 0, 0, 0, 6, 0])),
        (earlier, .ok (text 999 earlier.fresh))] := by
    have inTime : InTime 1000 := by decide
    have drawn : draw {} first = (⟨some 1000, first.fresh⟩, .ok (text 1000 first.fresh)) :=
      draw_of_other inTime nofun
    have refused (g : Generator) : g.draw rejected = (g, .error (.negativeTimestamp (-3))) :=
      draw_of_not_inTime g (by decide)
    have counted : draw ⟨some 1000, first.fresh⟩ first =
        (⟨some 1000, [0, 0, 0, 0, 0, 0, 0, 0, 0, 0, 6, 0]⟩,
          .ok (text 1000 [0, 0, 0, 0, 0, 0, 0, 0, 0, 0, 6, 0])) :=
      draw_of_same inTime rfl
    have renewed : draw ⟨some 1000, [0, 0, 0, 0, 0, 0, 0, 0, 0, 0, 6, 0]⟩ earlier =
        (⟨some 999, earlier.fresh⟩, .ok (text 999 earlier.fresh)) :=
      draw_of_other (by decide) (by decide)
    rw [history, drawn, history, refused, history, counted, history, renewed, history]
  obtain ⟨_, times, calls, _⟩ := identifiers_sort_by_time [first, rejected, first, earlier]
  rw [run] at times calls
  refine ⟨_, _, _, run, ?_⟩
  have quiet : ∀ z ∈ [(rejected, Except.error (GraphError.negativeTimestamp (-3)))],
      (InTime z.1.now → z.1.now = 1000) ∧ z.2 ≠ (.error .suffixExhausted : Except _ String) := by
    intro z hz
    rw [List.mem_singleton.1 hz]
    exact ⟨fun inTime => absurd inTime.1 (by decide), nofun⟩
  obtain ⟨up, alike⟩ := calls [] [_] [_] _ _ _ _ rfl rfl rfl rfl quiet
  have lower := times (earlier, .ok (text 999 earlier.fresh)) (by simp)
    (first, .ok (text 1000 first.fresh)) (by simp) _ _ rfl rfl (by decide)
  exact ⟨up, alike, lower⟩

end Generator

end Flowgraph.Identifier
