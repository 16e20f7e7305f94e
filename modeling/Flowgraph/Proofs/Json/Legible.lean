import Flowgraph.Proofs.Json.Numeral
import Flowgraph.Proofs.Json.Printer
import Flowgraph.Proofs.Json.Spelling

namespace Flowgraph.Json

namespace Value

mutual

/-- Whether a value has no doubles and integers of 64 bits, and arrays and objects that nest to so
many levels at most. -/
def legible : Nat → Value → Bool
  | _, .number (.int n) => -0x8000000000000000 ≤ n && n < 0x10000000000000000
  | _, .number (.float _) => false
  | 0, .array _ | 0, .object _ => false
  | room + 1, .array items => legibleItems room items
  | room + 1, .object members => legibleMembers room members
  | _, _ => true

def legibleItems (room : Nat) : List Value → Bool
  | [] => true
  | v :: rest => legible room v && legibleItems room rest

def legibleMembers (room : Nat) : List (String × Value) → Bool
  | [] => true
  | (_, v) :: rest => legible room v && legibleMembers room rest

end

end Value

namespace Reader

section Steps

def isMark (c : Char) : Bool :=
  c = ' ' || c = '\n' || c = '\t' || c = '\r' || c = ']' || c = ','

theorem skipBlanks_cons {c : Char} (ink : isMark c = false) (rest : List Char) :
    skipBlanks (c :: rest) = c :: rest := by
  simp only [isMark, Bool.or_eq_false_iff] at ink
  simp [skipBlanks, ink]

theorem chars_start (v : Value) : ∃ c cs, v.chars = c :: cs ∧ isMark c = false := by
  obtain ⟨c, cs, text, kind⟩ := v.chars_start
  have other : isMark (Value.kindOf c) = false := by
    rw [kind]
    cases v <;> rfl
  refine ⟨c, cs, text, ?_⟩
  cases mark : isMark c with
  | false => rfl
  | true =>
    simp only [isMark, Bool.or_eq_true, decide_eq_true_eq] at mark
    rcases mark with ((((rfl | rfl) | rfl) | rfl) | rfl) | rfl <;> exact absurd other (by decide)

variable (t : Tolerance) (fuel room : Nat)

theorem items_first (v : Value) (tail : List Char) :
    items t (fuel + 1) room true (v.chars ++ tail) = item t fuel room (v.chars ++ tail) := by
  obtain ⟨c, cs, text, ink⟩ := chars_start v
  rw [text, List.cons_append, items, skipBlanks_cons ink]
  simp only [isMark, Bool.or_eq_false_iff, decide_eq_false_iff_not] at ink
  split <;> simp_all

theorem items_next (v : Value) (tail : List Char) :
    items t (fuel + 1) room false (',' :: (v.chars ++ tail)) =
      item t fuel room (v.chars ++ tail) := by
  obtain ⟨c, cs, text, ink⟩ := chars_start v
  have comma : skipBlanks (',' :: (c :: cs ++ tail)) = ',' :: (c :: cs ++ tail) := rfl
  rw [text, items, comma]
  simp only [List.cons_append, skipBlanks_cons ink]
  simp only [isMark, Bool.or_eq_false_iff, decide_eq_false_iff_not] at ink
  split <;> simp_all

theorem items_last (first : Bool) (rest : List Char) :
    items t (fuel + 1) room first (']' :: rest) = .ok ([], rest) := by
  rw [items]
  rfl

theorem members_first (cs : List Char) :
    members t (fuel + 1) room true ('"' :: cs) = member t fuel room cs := by
  rw [members]
  rfl

theorem members_next (cs : List Char) :
    members t (fuel + 1) room false (',' :: '"' :: cs) = member t fuel room cs := by
  rw [members]
  rfl

theorem members_last (first : Bool) (rest : List Char) :
    members t (fuel + 1) room first ('\x7d' :: rest) = .ok ([], rest) := by
  rw [members]
  rfl

theorem value_null (rest : List Char) :
    value t (fuel + 1) room ('n' :: 'u' :: 'l' :: 'l' :: rest) = .ok (.null, rest) := by
  rw [value]
  rfl

theorem value_bool (b : Bool) (rest : List Char) :
    value t (fuel + 1) room ((Value.bool b).chars ++ rest) = .ok (.bool b, rest) := by
  cases b <;>
    · rw [value]
      rfl

theorem value_array {cs rest : List Char} {ds : List Document}
    (read : items t fuel room true cs = .ok (ds, rest)) :
    value t (fuel + 1) (room + 1) ('[' :: cs) = .ok (.array ds, rest) := by
  have start : skipBlanks ('[' :: cs) = '[' :: cs := rfl
  rw [value, start]
  simp [read, bind, Except.bind, pure, Except.pure]

theorem value_object {cs rest : List Char} {ms : List (Option Key × Document)}
    {fs : List (Key × Document)} (read : members t fuel room true cs = .ok (ms, rest))
    (keys : readableKeys ms = some fs) :
    value t (fuel + 1) (room + 1) ('\x7b' :: cs) = .ok (.object fs, rest) := by
  have start : skipBlanks ('\x7b' :: cs) = '\x7b' :: cs := rfl
  rw [value, start]
  simp [read, keys, bind, Except.bind, pure, Except.pure]

theorem value_minus (cs : List Char) :
    value t (fuel + 1) room ('-' :: cs) = number t true cs := by
  rw [value]
  rfl

theorem value_digit {c : Char} (digit : c.isDigit = true) (cs : List Char) :
    value t (fuel + 1) room (c :: cs) = number t false (c :: cs) := by
  have other {d : Char} : d.isDigit = false → c ≠ d := ne_of_isDigit digit
  have ink : isMark c = false := by
    simp [isMark, other (d := ' ') rfl, other (d := '\n') rfl, other (d := '\t') rfl,
      other (d := '\r') rfl, other (d := ']') rfl, other (d := ',') rfl]
  rw [value, skipBlanks_cons ink]
  split
  case h_9 c' rest' _ _ _ _ _ _ _ same =>
    cases same
    rw [if_pos (isDigit_eq c ▸ digit)]
  all_goals
    next same =>
      first
      | exact absurd same (List.cons_ne_nil _ _)
      | exact absurd (List.cons.inj same).1 (other rfl)

theorem value_quoted (s : String) (rest : List Char) :
    value t (fuel + 1) room (quoted s ++ rest) = .ok (.string s, rest) := by
  obtain ⟨p, read, text, _⟩ := string_quoted t s rest
  have start : skipBlanks ('"' :: (s.toList.flatMap escapeChar ++ '"' :: rest)) =
    '"' :: (s.toList.flatMap escapeChar ++ '"' :: rest) := rfl
  rw [quoted_append, value, start]
  simp only [read, bind, Except.bind, text]
  rfl

theorem value_integerText {n : Int} (least : -0x8000000000000000 ≤ n)
    (most : n < 0x10000000000000000) {rest : List Char} (ends : Ends rest) :
    value t (fuel + 1) room (integerText n ++ rest) = .ok (.number (.int n), rest) := by
  cases n with
  | ofNat n =>
    have fits : n < 0x10000000000000000 := by
      rw [Int.ofNat_eq_natCast] at most
      omega
    have literal := literal_digits false n ends
    -- Only the first digit decides how the reader goes on.
    obtain ⟨c, cs, text⟩ := List.exists_cons_of_ne_nil (Nat.toDigits_ne_nil (b := 10) (n := n))
    have digits : Decimal.digits n = c :: cs := text
    have digit : c.isDigit = true := isDigit_of_mem_digits (digits ▸ List.mem_cons_self)
    rw [integerText, digits, List.cons_append, value_digit t fuel room digit, ← List.cons_append,
      ← digits, number, literal]
    simp only [bind, Except.bind, Literal.value?_digits fits]
    rfl
  | negSucc n =>
    have fits : n < 0x8000000000000000 := by omega
    have literal := literal_digits true (n + 1) ends
    rw [integerText, List.cons_append, value_minus, number, literal]
    simp only [bind, Except.bind, Literal.value?_neg_digits fits]
    rfl

end Steps

section Values

variable {t : Tolerance} {room : Nat}

/-- The text of a value is read up to where the value ends, by as much fuel as the reader of a whole
text has for it. -/
def ReadsBack (t : Tolerance) (room : Nat) (v : Value) : Prop :=
  ∀ (fuel : Nat) (rest : List Char), Ends rest → 3 * v.chars.length ≤ fuel →
    value t fuel room (v.chars ++ rest) = .ok (v.spelled .printed, rest)

theorem ReadsBack.of_step {v : Value} (read : ∀ (fuel : Nat) (rest : List Char), Ends rest →
    3 * v.chars.length ≤ fuel + 1 →
      value t (fuel + 1) room (v.chars ++ rest) = .ok (v.spelled .printed, rest)) :
    ReadsBack t room v := by
  intro fuel rest ends enough
  obtain ⟨c, cs, text, _⟩ := chars_start v
  have some : fuel ≠ 0 := by
    rw [text, List.length_cons] at enough
    omega
  obtain ⟨fuel, rfl⟩ := Nat.exists_eq_succ_of_ne_zero some
  exact read fuel rest ends enough

section Items

theorem item_of {v : Value} (back : ReadsBack t room v) {fuel : Nat} {tail rest : List Char}
    {ds : List Document} (ends : Ends tail) (enough : 3 * v.chars.length ≤ fuel)
    (others : items t fuel room false tail = .ok (ds, rest)) :
    item t (fuel + 1) room (v.chars ++ tail) = .ok (v.spelled .printed :: ds, rest) := by
  rw [item, back fuel tail ends enough]
  simp only [bind, Except.bind, others]
  rfl

theorem items_more {vs : List Value} (each : ∀ v ∈ vs, ReadsBack t room v) {fuel : Nat}
    (rest : List Char) (enough : 3 * (Value.more ']' Value.itemsChars vs).length ≤ fuel) :
    items t fuel room false (Value.more ']' Value.itemsChars vs ++ rest) =
      .ok (Value.spelledItems .printed vs, rest) := by
  induction vs generalizing fuel with
  | nil =>
    have text : Value.more ']' Value.itemsChars [] ++ rest = ']' :: rest := rfl
    have enough : 3 ≤ fuel := enough
    obtain ⟨fuel, rfl⟩ : ∃ f, fuel = f + 1 := ⟨fuel - 1, by omega⟩
    rw [text, items_last]
    rfl
  | cons v vs ih =>
    obtain ⟨back, each⟩ := List.forall_mem_cons.1 each
    have text : Value.more ']' Value.itemsChars (v :: vs) =
        ',' :: (v.chars ++ Value.more ']' Value.itemsChars vs) :=
      congrArg _ (Value.itemsChars_cons v vs)
    -- The comma pays for the two steps that lead to the item.
    rw [text, List.length_cons, List.length_append] at enough
    obtain ⟨fuel, rfl⟩ : ∃ f, fuel = f + 2 := ⟨fuel - 2, by omega⟩
    rw [text, List.cons_append, List.append_assoc, items_next]
    exact item_of back (Value.ends_more rfl vs rest) (by omega) (ih each (by omega))

theorem items_chars {vs : List Value} (each : ∀ v ∈ vs, ReadsBack t room v) {fuel : Nat}
    (rest : List Char) (enough : 3 * (Value.itemsChars vs).length ≤ fuel) :
    items t (fuel + 2) room true (Value.itemsChars vs ++ rest) =
      .ok (Value.spelledItems .printed vs, rest) := by
  cases vs with
  | nil => exact items_last t (fuel + 1) room true rest
  | cons v vs =>
    obtain ⟨back, each⟩ := List.forall_mem_cons.1 each
    rw [Value.itemsChars_cons, List.length_append] at enough
    rw [Value.itemsChars_cons, List.append_assoc, items_first]
    exact item_of back (Value.ends_more rfl vs rest) (by omega)
      (items_more each rest (by omega))

end Items

section Members

def keyed (fs : List (Key × Document)) : List (Option Key × Document) :=
  fs.map fun f => (some f.1, f.2)

theorem readableKeys_keyed (fs : List (Key × Document)) : readableKeys (keyed fs) = some fs := by
  have same := List.mapM_pure (m := Option) (f := id) (l := fs)
  rw [readableKeys, keyed, List.mapM_map]
  rw [List.map_id] at same
  exact same

theorem member_of {k : String} {v : Value} (back : ReadsBack t room v) {fuel : Nat}
    {tail rest : List Char} {fs : List (Key × Document)} (ends : Ends tail)
    (enough : 3 * v.chars.length ≤ fuel)
    (others : members t fuel room false tail = .ok (keyed fs, rest)) :
    member t (fuel + 1) room
        (k.toList.flatMap escapeChar ++ '"' :: ':' :: (v.chars ++ tail)) =
      .ok (keyed ((⟨k, Spelling.printed.plain k⟩, v.spelled .printed) :: fs), rest) := by
  obtain ⟨p, read, text, escaped⟩ := string_quoted t k (':' :: (v.chars ++ tail))
  have colon : skipBlanks (':' :: (v.chars ++ tail)) = ':' :: (v.chars ++ tail) := rfl
  have key : p.text?.map (⟨·, !p.escaped⟩) = some (⟨k, Spelling.printed.plain k⟩ : Key) := by
    rw [text, escaped, Bool.not_not]
    rfl
  rw [member, read]
  simp only [bind, Except.bind, colon, back fuel tail ends enough, others, key]
  rfl

theorem members_more {ms : Members} (each : ∀ m ∈ ms, ReadsBack t room m.2) {fuel : Nat}
    (rest : List Char) (enough : 3 * (Value.more '\x7d' Value.membersChars ms).length ≤ fuel) :
    members t fuel room false (Value.more '\x7d' Value.membersChars ms ++ rest) =
      .ok (keyed (Value.spelledMembers .printed ms), rest) := by
  induction ms generalizing fuel with
  | nil =>
    have text : Value.more '\x7d' Value.membersChars [] ++ rest = '\x7d' :: rest := rfl
    have enough : 3 ≤ fuel := enough
    obtain ⟨fuel, rfl⟩ : ∃ f, fuel = f + 1 := ⟨fuel - 1, by omega⟩
    rw [text, members_last]
    rfl
  | cons m ms ih =>
    obtain ⟨k, v⟩ := m
    obtain ⟨back, each⟩ := List.forall_mem_cons.1 each
    dsimp only at back
    have text : Value.more '\x7d' Value.membersChars ((k, v) :: ms) =
        ',' :: (quoted k ++ ':' :: (v.chars ++ Value.more '\x7d' Value.membersChars ms)) :=
      congrArg _ (Value.membersChars_cons k v ms)
    rw [text, List.length_cons, List.length_append, List.length_cons, List.length_append] at enough
    obtain ⟨fuel, rfl⟩ : ∃ f, fuel = f + 2 := ⟨fuel - 2, by omega⟩
    rw [text, List.cons_append, List.append_assoc, quoted_append, members_next, List.cons_append,
      List.append_assoc]
    exact member_of back (Value.ends_more rfl ms rest) (by omega) (ih each (by omega))

theorem members_chars {ms : Members} (each : ∀ m ∈ ms, ReadsBack t room m.2) {fuel : Nat}
    (rest : List Char) (enough : 3 * (Value.membersChars ms).length ≤ fuel) :
    members t (fuel + 2) room true (Value.membersChars ms ++ rest) =
      .ok (keyed (Value.spelledMembers .printed ms), rest) := by
  cases ms with
  | nil => exact members_last t (fuel + 1) room true rest
  | cons m ms =>
    obtain ⟨k, v⟩ := m
    obtain ⟨back, each⟩ := List.forall_mem_cons.1 each
    dsimp only at back
    rw [Value.membersChars_cons, List.length_append, List.length_cons, List.length_append] at enough
    rw [Value.membersChars_cons, List.append_assoc, quoted_append, members_first, List.cons_append,
      List.append_assoc]
    exact member_of back (Value.ends_more rfl ms rest) (by omega)
      (members_more each rest (by omega))

end Members

mutual

theorem readsBack : ∀ {room : Nat} {v : Value}, v.legible room = true → ReadsBack t room v
  | room, .null, _ => .of_step fun fuel rest _ _ => value_null t fuel room rest
  | room, .bool b, _ => .of_step fun fuel rest _ _ => value_bool t fuel room b rest
  | room, .number (.int n), h => by
    simp only [Value.legible, Bool.and_eq_true, decide_eq_true_eq] at h
    exact .of_step fun fuel rest ends _ => value_integerText t fuel room h.1 h.2 ends
  | _, .number (.float _), h => by simp [Value.legible] at h
  | room, .string s, _ => .of_step fun fuel rest _ _ => value_quoted t fuel room s rest
  | 0, .array _, h => by simp [Value.legible] at h
  | room + 1, .array items, h => by
    have listed : Value.legibleItems room items = true := by simpa [Value.legible] using h
    have each := readsBack_items listed
    refine .of_step fun fuel rest _ enough => ?_
    rw [Value.chars, List.length_cons] at enough
    obtain ⟨fuel, rfl⟩ : ∃ f, fuel = f + 2 := ⟨fuel - 2, by omega⟩
    exact value_array t _ room (items_chars each rest (by omega))
  | 0, .object _, h => by simp [Value.legible] at h
  | room + 1, .object members, h => by
    have listed : Value.legibleMembers room members = true := by simpa [Value.legible] using h
    have each := readsBack_members listed
    refine .of_step fun fuel rest _ enough => ?_
    rw [Value.chars, List.length_cons] at enough
    obtain ⟨fuel, rfl⟩ : ∃ f, fuel = f + 2 := ⟨fuel - 2, by omega⟩
    exact value_object t _ room (members_chars each rest (by omega)) (readableKeys_keyed _)

theorem readsBack_items : ∀ {room : Nat} {vs : List Value}, Value.legibleItems room vs = true →
    ∀ v ∈ vs, ReadsBack t room v
  | _, [], _ => fun _ hv => absurd hv List.not_mem_nil
  | room, v :: vs, h => by
    rw [Value.legibleItems, Bool.and_eq_true] at h
    exact List.forall_mem_cons.2 ⟨readsBack h.1, readsBack_items h.2⟩

theorem readsBack_members : ∀ {room : Nat} {ms : Members}, Value.legibleMembers room ms = true →
    ∀ m ∈ ms, ReadsBack t room m.2
  | _, [], _ => fun _ hm => absurd hm List.not_mem_nil
  | room, (k, v) :: ms, h => by
    rw [Value.legibleMembers, Bool.and_eq_true] at h
    exact List.forall_mem_cons.2 ⟨readsBack h.1, readsBack_members h.2⟩

end

end Values

end Reader

/-- What is printed is read back. -/
theorem Value.ofText?_compact {v : Value} (h : v.legible Reader.depthLimit = true) :
    Document.ofText? v.compact = some (v.spelled .printed) := by
  have ends : Ends [] := fun _ head => nomatch head
  have read := Reader.readsBack (t := .markUnreadable) h (3 * v.chars.length + 3) [] ends
    (Nat.le_add_right _ _)
  rw [List.append_nil] at read
  rw [Document.ofText?, compact, String.toList_ofList, Reader.text, read]
  rfl

end Flowgraph.Json
