import Flowgraph.Json.Printer
import Flowgraph.Json.Reader

namespace Flowgraph.Json

section Strings

def unescaped (s : String) : Bool := s.toList.all fun c => (escapeChar c).length == 1

namespace Reader

theorem hexValue?_hexDigit : ∀ n < 16, hexValue? (hexDigit n) = some n := by decide

def Piece.takes (p : Piece) (c : Char) : Piece where
  chars := c :: p.chars
  escaped := p.escaped || (escapeChar c).length != 1
  flawed := p.flawed

theorem fourHex_controls {h l : Nat} (hh : h < 16) (hl : l < 16) (rest : List Char) :
    fourHex ('0' :: '0' :: hexDigit h :: hexDigit l :: rest) = .ok () := by
  have long : ¬byteCount ['0', '0', hexDigit h, hexDigit l] < 4 := by
    have size := Char.utf8Size_pos (hexDigit h)
    have size' := Char.utf8Size_pos (hexDigit l)
    have zero : '0'.utf8Size = 1 := rfl
    simp only [byteCount, List.foldl_cons, List.foldl_nil, zero]
    omega
  have hex : hexValue? '0' = some 0 := rfl
  simp [fourHex, long, hex, hexValue?_hexDigit h hh, hexValue?_hexDigit l hl]

theorem string_control (t : Tolerance) (p : Piece) {c : Char} (control : c.toNat < 0x20)
    (rest : List Char) :
    string t .text p ('\\' :: 'u' :: '0' :: '0' :: hexDigit (c.toNat / 16) ::
      hexDigit (c.toNat % 16) :: rest) =
    string t .text { p with chars := c :: p.chars, escaped := true } rest := by
  have high : c.toNat / 16 < 16 := by omega
  have low : c.toNat % 16 < 16 := by omega
  have whole : c.toNat / 16 * 16 + c.toNat % 16 = c.toNat := by omega
  have hex : hexValue? '0' = some 0 := rfl
  have surrogate : ¬(0xDC00 ≤ c.toNat) ∧ ¬(0xD800 ≤ c.toNat) := by omega
  simp [string, fourHex_controls high low, hex, hexValue?_hexDigit _ high,
    hexValue?_hexDigit _ low, whole, surrogate, Piece.push, bind, Except.bind]

theorem string_escapeChar (t : Tolerance) (p : Piece) (c : Char) (rest : List Char) :
    string t .text p (escapeChar c ++ rest) = string t .text (p.takes c) rest := by
  unfold Piece.takes escapeChar
  -- Seven characters have escapes of their own.
  iterate 7
    split
    · next same => simp [same, string, escapeOf?, Piece.push]
  split
  · next control =>
    have read := string_control t p control rest
    simpa using read
  · next quote backslash _ _ _ _ _ plain => simp [string, quote, backslash, plain, Piece.push]

theorem string_flatMap (t : Tolerance) (p : Piece) (cs rest : List Char) :
    string t .text p (cs.flatMap escapeChar ++ '"' :: rest) =
      .ok (cs.foldl Piece.takes p, rest) := by
  induction cs generalizing p with
  | nil => simp [string]
  | cons c cs ih =>
    rw [List.flatMap_cons, List.append_assoc, string_escapeChar, ih, List.foldl_cons]

theorem Piece.takes_all (p : Piece) (cs : List Char) :
    cs.foldl takes p = ⟨cs.reverse ++ p.chars,
      p.escaped || !cs.all fun c => (escapeChar c).length == 1, p.flawed⟩ := by
  induction cs generalizing p with
  | nil => simp
  | cons c cs ih => simp [ih, takes, bne, Bool.or_assoc]

/-- A string is read back behind its opening quote, whatever follows it. -/
theorem string_quoted (t : Tolerance) (s : String) (rest : List Char) :
    ∃ p, string t .text {} (s.toList.flatMap escapeChar ++ '"' :: rest) = .ok (p, rest) ∧
      p.text? = some s ∧ p.escaped = !unescaped s := by
  refine ⟨_, string_flatMap t {} s.toList rest, ?_⟩
  rw [Piece.takes_all]
  simp [Piece.text?, unescaped]

end Reader

theorem quoted_append (s : String) (rest : List Char) :
    quoted s ++ rest = '"' :: (s.toList.flatMap escapeChar ++ '"' :: rest) := by
  simp [quoted]

theorem quoted_append_inj {s s' : String} {rest rest' : List Char}
    (same : quoted s ++ rest = quoted s' ++ rest') : s = s' ∧ rest = rest' := by
  rw [quoted_append, quoted_append] at same
  obtain ⟨p, read, text, _⟩ := Reader.string_quoted .none s rest
  obtain ⟨p', read', text', _⟩ := Reader.string_quoted .none s' rest'
  rw [(List.cons.inj same).2, read'] at read
  simp only [Except.ok.injEq, Prod.mk.injEq] at read
  obtain ⟨rfl, rfl⟩ := read
  rw [text] at text'
  exact ⟨Option.some.inj text', rfl⟩

end Strings

section Numbers

def isNumeric (c : Char) : Bool :=
  c.isDigit || c = '-' || c = '+' || c = '.' || c = 'e' || c = 'E'

theorem isDigit_of_mem_digits {n : Nat} {c : Char} (mem : c ∈ Decimal.digits n) :
    c.isDigit = true :=
  Nat.isDigit_of_mem_toDigits (by decide) (by decide) mem

theorem ne_of_isDigit {c d : Char} (digit : c.isDigit = true) (mark : d.isDigit = false) :
    c ≠ d := by
  rintro rfl
  exact absurd digit (mark ▸ Bool.false_ne_true)

theorem digits_inj {n m : Nat} (same : Decimal.digits n = Decimal.digits m) : n = m := by
  have read := congrArg (Nat.ofDigitChars 10 · 0) same
  simpa [Decimal.digits, Nat.ofDigitChars_toDigits] using read

theorem integerText_inj {n m : Int} (same : integerText n = integerText m) : n = m := by
  have sign (k k' : Nat) : Decimal.digits k ≠ '-' :: Decimal.digits k' := by
    intro eq
    have digit : '-'.isDigit = true := isDigit_of_mem_digits (eq ▸ List.mem_cons_self)
    exact absurd digit (by decide)
  cases n with
  | ofNat n =>
    cases m with
    | ofNat m => rw [digits_inj same]
    | negSucc m => exact absurd same (sign _ _)
  | negSucc n =>
    cases m with
    | ofNat m => exact absurd same.symm (sign _ _)
    | negSucc m =>
      have digits : n + 1 = m + 1 := digits_inj (List.cons.inj same).2
      rw [Nat.succ.inj digits]

theorem ofList_integerText (n : Int) : String.ofList (integerText n) = toString n := by
  cases n with
  | ofNat n => rfl
  | negSucc n =>
    simp only [integerText, Decimal.digits, String.ofList_cons]
    rfl

theorem mem_integerText {n : Int} {c : Char} (mem : c ∈ integerText n) :
    c.isDigit = true ∨ c = '-' := by
  cases n with
  | ofNat n => exact .inl (isDigit_of_mem_digits mem)
  | negSucc n =>
    rcases List.mem_cons.1 mem with rfl | mem
    · exact .inr rfl
    · exact .inl (isDigit_of_mem_digits mem)

theorem isNumeric_of_isDigit {c : Char} (digit : c.isDigit = true) : isNumeric c = true := by
  simp [isNumeric, digit]

theorem isNumeric_of_mem_digits {n : Nat} {c : Char} (mem : c ∈ Decimal.digits n) :
    isNumeric c = true :=
  isNumeric_of_isDigit (isDigit_of_mem_digits mem)

/-- The text of a number that need not be whole: numeric, with a point or an exponent. -/
structure Broken (cs : List Char) : Prop where
  numeric : ∀ c ∈ cs, isNumeric c = true
  mark : '.' ∈ cs ∨ 'e' ∈ cs

theorem broken_write (n : Nat) (e : Int) : Broken (floatLayout.write (Decimal.digits n) e) := by
  have digit {c : Char} (mem : c ∈ Decimal.digits n) := isNumeric_of_mem_digits mem
  unfold Decimal.Layout.write
  dsimp only
  split
  · split
    · refine ⟨fun c mem => ?_, .inl (by simp)⟩
      simp only [List.mem_append, List.mem_replicate, List.mem_cons, List.not_mem_nil,
        or_false] at mem
      rcases mem with (mem | ⟨_, rfl⟩) | rfl | rfl
      · exact digit mem
      all_goals decide
    · split
      · refine ⟨fun c mem => ?_, .inl (by simp)⟩
        simp only [List.mem_append, List.mem_cons] at mem
        rcases mem with mem | rfl | mem
        · exact digit (List.mem_of_mem_take mem)
        · decide
        · exact digit (List.mem_of_mem_drop mem)
      · refine ⟨fun c mem => ?_, .inl (by simp)⟩
        simp only [List.cons_append, List.mem_append, List.mem_replicate, List.mem_cons] at mem
        rcases mem with rfl | rfl | ⟨_, rfl⟩ | mem
        · decide
        · decide
        · decide
        · exact digit mem
  · refine ⟨fun c mem => ?_, .inr (by simp [floatLayout])⟩
    simp only [List.mem_append, List.mem_cons] at mem
    rcases mem with (mem | mem) | rfl | rfl | mem
    · exact digit (List.mem_of_mem_take mem)
    · split at mem
      · cases mem
      · rcases List.mem_cons.1 mem with rfl | mem
        · decide
        · exact digit (List.mem_of_mem_drop mem)
    · decide
    · split <;> decide
    · exact isNumeric_of_mem_digits mem

theorem broken_floatText (bits : UInt64) : Broken (floatText bits) := by
  have unsigned : Broken (if (Decimal.Binary.ofBits bits).mantissa = 0 then ['0', '.', '0']
      else floatLayout.write (Decimal.digits (Decimal.Binary.ofBits bits).shortest.1)
        (Decimal.Binary.ofBits bits).shortest.2) := by
    split
    · exact ⟨by simp [isNumeric], by simp⟩
    · exact broken_write _ _
  unfold floatText
  dsimp only
  split
  · exact ⟨List.forall_mem_cons.2 ⟨by decide, unsigned.numeric⟩,
      unsigned.mark.imp (List.mem_cons_of_mem _) (List.mem_cons_of_mem _)⟩
  · exact unsigned

theorem Number.text_numeric (n : Number) : ∀ c ∈ n.text, isNumeric c = true := by
  cases n with
  | int n =>
    intro c mem
    rcases mem_integerText mem with digit | rfl
    · exact isNumeric_of_isDigit digit
    · decide
  | float bits => exact (broken_floatText bits).numeric

theorem Number.text_ne_nil (n : Number) : n.text ≠ [] := by
  cases n with
  | int n =>
    cases n with
    | ofNat n => exact Nat.toDigits_ne_nil
    | negSucc n => exact List.cons_ne_nil _ _
  | float bits =>
    intro empty
    have mark := (broken_floatText bits).mark
    rw [show floatText bits = [] from empty] at mark
    simp at mark

theorem integerText_ne_floatText (n : Int) (bits : UInt64) : integerText n ≠ floatText bits := by
  intro same
  have mark := (broken_floatText bits).mark
  rw [← same] at mark
  rcases mark with mem | mem
  · exact absurd (mem_integerText mem) (by decide)
  · exact absurd (mem_integerText mem) (by decide)

theorem Number.text_inj {n m : Number} (apart : ∀ a b, n = .float a → m = .float b →
    floatText a = floatText b → a = b) (same : n.text = m.text) : n = m := by
  cases n with
  | int n =>
    cases m with
    | int m => rw [integerText_inj same]
    | float b => exact absurd same (integerText_ne_floatText n b)
  | float a =>
    cases m with
    | int m => exact absurd same.symm (integerText_ne_floatText m a)
    | float b => rw [apart a b rfl rfl same]

/-- What may follow a value: nothing, or a character that stands in no number. -/
def Ends (rest : List Char) : Prop := ∀ c ∈ rest.head?, isNumeric c = false

theorem takeWhile_ends {rest : List Char} (ends : Ends rest) : rest.takeWhile isNumeric = [] := by
  cases rest with
  | nil => rfl
  | cons c rest => simp [ends c rfl]

/-- A number shows where it ends. -/
theorem Number.text_append_inj {n m : Number} {rest rest' : List Char} (ends : Ends rest)
    (ends' : Ends rest') (same : n.text ++ rest = m.text ++ rest') :
    n.text = m.text ∧ rest = rest' := by
  have front (n : Number) {rest : List Char} (ends : Ends rest) :
      (n.text ++ rest).takeWhile isNumeric = n.text := by
    rw [List.takeWhile_append_of_pos n.text_numeric, takeWhile_ends ends, List.append_nil]
  have texts : n.text = m.text := by
    rw [← front n ends, ← front m ends', same]
  refine ⟨texts, ?_⟩
  rw [texts] at same
  exact List.append_cancel_left same

end Numbers

end Flowgraph.Json
