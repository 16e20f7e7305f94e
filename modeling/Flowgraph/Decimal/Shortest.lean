namespace Flowgraph.Decimal

/-- The magnitude of a finite double, `mantissa · 2 ^ exponent`. -/
structure Binary where
  mantissa : Nat
  exponent : Int
  /-- Whether the next double below is only half as far away as the next one above. -/
  lopsided : Bool
deriving DecidableEq, Repr

/-- The magnitude that the bits of a finite double stand for. -/
def Binary.ofBits (bits : UInt64) : Binary :=
  let fraction : Nat := bits.toNat % 0x10000000000000
  let power : Nat := bits.toNat / 0x10000000000000 % 0x800
  if power = 0 then ⟨fraction, -1074, false⟩
  else ⟨0x10000000000000 + fraction, (power : Int) - 1075, fraction = 0 ∧ 1 < power⟩

namespace Binary

/-- The multiple of `10 ^ e` nearest to `b` among those that round to `b`, by its factor. A tie
goes to the even factor. -/
def onGrid (b : Binary) (e : Int) : Option Nat :=
  -- quarters of a unit in the last place, and the grid, on one scale of natural numbers
  let quarter := Nat.pow 2 (b.exponent - 2).toNat * Nat.pow 10 (-e).toNat
  let step := Nat.pow 2 (2 - b.exponent).toNat * Nat.pow 10 e.toNat
  let exact := 4 * b.mantissa * quarter
  let low := (4 * b.mantissa - if b.lopsided then 1 else 2) * quarter
  let high := (4 * b.mantissa + 2) * quarter
  let inside (d : Nat) : Bool :=
    if b.mantissa % 2 = 0 then low ≤ d * step && d * step ≤ high
    else low < d * step && d * step < high
  let down := exact / step
  let up := down + 1
  match inside down, inside up with
  | true, true =>
    let below := exact - down * step
    let above := up * step - exact
    some (if below < above || (below = above && down % 2 = 0) then down else up)
  | true, false => some down
  | false, true => some up
  | false, false => none

/-- Tries ever finer grids, from `10 ^ e` on. -/
def refine (b : Binary) : Nat → Int → Nat × Int
  | 0, e => (0, e)
  | fuel + 1, e =>
    match b.onGrid e with
    | some d => (d, e)
    | none => refine b fuel (e - 1)

/-- The shortest decimal `d · 10 ^ e` that reads back as `b`, as the pair of `d` and `e`. No power
of ten above the first grid is below `b`, and seventeen digits tell all doubles apart. -/
def shortest (b : Binary) : Nat × Int :=
  refine b 40 ((Nat.log2 (4 * b.mantissa + 2) + b.exponent - 1) * 30103 / 100000 + 1)

end Binary

end Flowgraph.Decimal
