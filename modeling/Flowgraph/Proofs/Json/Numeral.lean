import Flowgraph.Proofs.Json.Token

namespace Flowgraph.Json

theorem isDigit_eq (c : Char) : Reader.isDigit c = c.isDigit := by
  simp only [Reader.isDigit, Char.isDigit, Char.le_def]

theorem digits_cons {n : Nat} (pos : n ≠ 0) : ∃ c cs, Decimal.digits n = c :: cs ∧ c ≠ '0' := by
  have least : ∀ d < 10, d ≠ 0 → Nat.digitChar d ≠ '0' := by decide
  induction n using Nat.strongRecOn with
  | ind n ih =>
    rw [Decimal.digits, Nat.toDigits_eq_if (by decide)]
    split
    · next small => exact ⟨_, [], rfl, least n small pos⟩
    · next large =>
      obtain ⟨c, cs, text, lead⟩ := ih (n / 10) (by omega) (by omega)
      rw [Decimal.digits] at text
      exact ⟨c, cs ++ [Nat.digitChar (n % 10)], by rw [text]; rfl, lead⟩

theorem le_ofDigitChars (cs : List Char) (n : Nat) : n ≤ Nat.ofDigitChars 10 cs n := by
  induction cs generalizing n with
  | nil => exact Nat.le_refl n
  | cons c cs ih =>
    have step : n ≤ 10 * n + (c.toNat - '0'.toNat) := by omega
    exact Nat.le_trans step (ih _)

theorem gather_digitValues {cs : List Char} {n : Nat}
    (fits : Nat.ofDigitChars 10 cs n < 0x10000000000000000) :
    gather n (Reader.digitValues cs) = (Nat.ofDigitChars 10 cs n, 0) := by
  induction cs generalizing n with
  | nil => rfl
  | cons c cs ih =>
    have step : n * 10 + (c.toNat - '0'.toNat) = 10 * n + (c.toNat - '0'.toNat) := by omega
    have small := Nat.lt_of_le_of_lt (le_ofDigitChars cs (10 * n + (c.toNat - '0'.toNat))) fits
    change gather n ((c.toNat - '0'.toNat) :: Reader.digitValues cs) = _
    rw [gather, step, if_pos small]
    exact ih fits

theorem gather_digits {n : Nat} (fits : n < 0x10000000000000000) :
    gather 0 (Reader.digitValues (Decimal.digits n)) = (n, 0) := by
  have read : Nat.ofDigitChars 10 (Decimal.digits n) 0 = n :=
    Nat.ofDigitChars_toDigits (by decide) (by decide)
  rw [gather_digitValues (by rwa [read]), read]

theorem Ends.not_isDigit {rest : List Char} (ends : Ends rest) :
    ∀ c ∈ rest.head?, Reader.isDigit c = false := by
  intro c head
  have other := ends c head
  simp only [isNumeric, Bool.or_eq_false_iff] at other
  rw [isDigit_eq]
  exact other.1.1.1.1.1

theorem span_digits (n : Nat) {rest : List Char} (ends : Ends rest) :
    (Decimal.digits n ++ rest).takeWhile Reader.isDigit = Decimal.digits n ∧
      (Decimal.digits n ++ rest).dropWhile Reader.isDigit = rest := by
  have digits : ∀ c ∈ Decimal.digits n, Reader.isDigit c = true := by
    intro c mem
    rw [isDigit_eq]
    exact isDigit_of_mem_digits mem
  have stop := ends.not_isDigit
  rw [List.takeWhile_append_of_pos digits, List.dropWhile_append_of_pos digits]
  cases rest with
  | nil => simp
  | cons c rest => simp [stop c rfl]

/-- A written whole number is read up to where it ends. -/
theorem Reader.literal_digits (negative : Bool) (n : Nat) {rest : List Char} (ends : Ends rest) :
    literal negative (Decimal.digits n ++ rest) =
      .ok (⟨negative, digitValues (Decimal.digits n), none, none⟩, rest) := by
  obtain ⟨digits, others⟩ := span_digits n ends
  -- What follows is no point and no exponent, so the digits are the whole literal.
  have plain : ∀ c ∈ rest.head?, c ≠ '.' ∧ c ≠ 'e' ∧ c ≠ 'E' := by
    intro c head
    have other := ends c head
    simp only [isNumeric, Bool.or_eq_false_iff, decide_eq_false_iff_not] at other
    exact ⟨other.1.1.2, other.1.2, other.2⟩
  by_cases zero : n = 0
  · subst zero
    have text : Decimal.digits 0 ++ rest = '0' :: rest := rfl
    have stop : (rest.takeWhile isDigit).isEmpty = true := by
      have stop := ends.not_isDigit
      cases rest with
      | nil => rfl
      | cons c rest => simp [stop c rfl]
    have zero : digitValues (Decimal.digits 0) = [0] := rfl
    rw [text, zero, literal]
    simp only [stop, if_true, bind, Except.bind]
    cases rest with
    | nil => rfl
    | cons c rest =>
      obtain ⟨point, lower, upper⟩ := plain c rfl
      simp [point, lower, upper, pure, Except.pure]
  · obtain ⟨c, cs, text, lead⟩ := digits_cons zero
    have digit : isDigit c = true := by
      rw [isDigit_eq]
      exact isDigit_of_mem_digits (text ▸ List.mem_cons_self)
    rw [text, List.cons_append] at digits others ⊢
    rw [literal]
    · simp only [digit, digits, others, if_true, bind, Except.bind]
      cases rest with
      | nil => rfl
      | cons c rest =>
        obtain ⟨point, lower, upper⟩ := plain c rfl
        simp [point, lower, upper, pure, Except.pure]
    · exact lead

theorem Literal.value?_digits {n : Nat} (fits : n < 0x10000000000000000) :
    Literal.value? ⟨false, Reader.digitValues (Decimal.digits n), none, none⟩ = some (.int n) := by
  simp [Literal.value?, gather_digits fits]

theorem Literal.value?_neg_digits {n : Nat} (fits : n < 0x8000000000000000) :
    Literal.value? ⟨true, Reader.digitValues (Decimal.digits (n + 1)), none, none⟩ =
      some (.int (.negSucc n)) := by
  have above : ¬(0x8000000000000000 < n + 1) := by omega
  have negated : -((n + 1 : Nat) : Int) = .negSucc n := rfl
  simp only [Literal.value?, gather_digits (n := n + 1) (by omega), above, negated]
  simp

end Flowgraph.Json
