import Flowgraph.Identifier
import Mathlib.Data.Nat.Digits.Lemmas

namespace Flowgraph.Identifier

/-- The number that digits spell in base 64, most significant first. -/
def value (ds : List Nat) : Nat := Nat.ofDigits 64 ds.reverse

variable {ds es : List Nat}

theorem value_append (ds es : List Nat) :
    value (ds ++ es) = 64 ^ es.length * value ds + value es := by
  rw [value, List.reverse_append, Nat.ofDigits_append, List.length_reverse, Nat.add_comm]
  rfl

theorem value_singleton (d : Nat) : value [d] = d := Nat.ofDigits_singleton ..

theorem value_cons (d : Nat) (ds : List Nat) :
    value (d :: ds) = 64 ^ ds.length * d + value ds := by
  have split := value_append [d] ds
  rwa [value_singleton] at split

theorem value_lt (small : ∀ d ∈ ds, d < 64) : value ds < 64 ^ ds.length := by
  have bound := Nat.ofDigits_lt_base_pow_length (b := 64) (l := ds.reverse) (by decide)
    fun d hd => small d (List.mem_reverse.1 hd)
  rwa [List.length_reverse] at bound

theorem lt_of_value_lt (length : ds.length = es.length) (small : ∀ d ∈ ds, d < 64)
    (small' : ∀ e ∈ es, e < 64) (lt : value ds < value es) : ds < es := by
  induction ds generalizing es with
  | nil =>
    rw [List.length_eq_zero_iff.1 length.symm] at lt
    exact absurd lt (Nat.lt_irrefl _)
  | cons d ds ih =>
    obtain ⟨e, es, rfl⟩ := List.exists_cons_of_length_eq_add_one length.symm
    have low := (List.forall_mem_cons.1 small).2
    have low' := (List.forall_mem_cons.1 small').2
    have rest : ds.length = es.length := Nat.succ.inj length
    have bound : value ds < 64 ^ es.length := rest ▸ value_lt low
    have bound' : value es < 64 ^ es.length := value_lt low'
    rw [value_cons, value_cons, rest] at lt
    rw [List.cons_lt_cons_iff]
    rcases Nat.lt_trichotomy d e with first | rfl | first
    · exact .inl first
    · exact .inr ⟨rfl, ih rest low low' (Nat.lt_of_add_lt_add_left lt)⟩
    · -- A larger first digit outweighs all that follows.
      have outweighs : 64 ^ es.length * (e + 1) ≤ 64 ^ es.length * d := Nat.mul_le_mul_left _ first
      rw [Nat.mul_succ] at outweighs
      omega

theorem length_digits (width n : Nat) : (digits width n).1.length = width := by
  induction width generalizing n with
  | zero => rfl
  | succ width ih => rw [digits, List.length_append, ih, List.length_singleton]

theorem digits_small (width n : Nat) : ∀ d ∈ (digits width n).1, d < 64 := by
  induction width generalizing n with
  | zero => exact fun d hd => absurd hd List.not_mem_nil
  | succ width ih =>
    intro d hd
    rcases List.mem_append.1 hd with high | last
    · exact ih (n / 64) d high
    · rw [List.mem_singleton.1 last]
      exact Nat.mod_lt n (by decide)

theorem rest_digits (width n : Nat) : (digits width n).2 = n / 64 ^ width := by
  induction width generalizing n with
  | zero => exact (Nat.div_one n).symm
  | succ width ih => rw [digits, ih, Nat.div_div_eq_div_mul, Nat.pow_succ']

/-- A number is spelled by its last digits and what is left of it. -/
theorem value_digits (width n : Nat) :
    64 ^ width * (digits width n).2 + value (digits width n).1 = n := by
  induction width generalizing n with
  | zero => simp [digits, value]
  | succ width ih =>
    have high := ih (n / 64)
    have whole := Nat.div_add_mod n 64
    rw [digits, value_append, value_singleton, List.length_singleton, Nat.pow_one, ← Nat.add_assoc,
      Nat.pow_succ', Nat.mul_assoc, ← Nat.mul_add, high, whole]

theorem length_increment (ds : List Nat) : (increment ds).1.length = ds.length := by
  induction ds with
  | nil => rfl
  | cons d ds ih =>
    rw [increment]
    dsimp only
    split
    · split <;> exact congrArg (· + 1) ih
    · exact congrArg (· + 1) ih

theorem increment_small (small : ∀ d ∈ ds, d < 64) : ∀ d ∈ (increment ds).1, d < 64 := by
  induction ds with
  | nil => exact small
  | cons d ds ih =>
    obtain ⟨first, rest⟩ := List.forall_mem_cons.1 small
    rw [increment]
    dsimp only
    split
    · split
      · exact List.forall_mem_cons.2 ⟨by decide, ih rest⟩
      · exact List.forall_mem_cons.2 ⟨by omega, ih rest⟩
    · exact List.forall_mem_cons.2 ⟨first, ih rest⟩

/-- Counting up adds one. A carry out of the first digit is worth one more than the largest
number. -/
theorem value_increment (ds : List Nat) :
    64 ^ ds.length * (increment ds).2.toNat + value (increment ds).1 = value ds + 1 := by
  induction ds with
  | nil => rfl
  | cons d ds ih =>
    rw [increment, value_cons]
    dsimp only
    split
    · next carry =>
      rw [carry, Bool.toNat_true] at ih
      split
      · next last =>
        subst last
        rw [value_cons, length_increment, List.length_cons, Nat.pow_succ, Bool.toNat_true]
        omega
      · rw [value_cons, length_increment, Bool.toNat_false, Nat.mul_succ]
        omega
    · next carry =>
      rw [Bool.not_eq_true] at carry
      rw [carry, Bool.toNat_false] at ih
      rw [value_cons, length_increment, Bool.toNat_false]
      omega

end Flowgraph.Identifier
