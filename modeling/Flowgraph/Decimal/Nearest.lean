import Flowgraph.Decimal.Layout
import Flowgraph.Decimal.Shortest

namespace Flowgraph.Decimal

/-- A quotient rounded to the nearest natural number; a tie goes to the even one. -/
def roundDiv (num den : Nat) : Nat :=
  let q := num / den
  let twice := 2 * (num % den)
  if twice < den ∨ (twice = den ∧ q % 2 = 0) then q else q + 1

/-- The least mantissa of a double that is not among the smallest. -/
def leastMantissa : Nat := 0x10000000000000

/-- The magnitude nearest to `num / den`, unless it is beyond the doubles. -/
def Binary.nearest? (num den : Nat) : Option Binary :=
  let apart : Int := Nat.log2 num - Nat.log2 den
  let short := num * Nat.pow 2 (-apart).toNat < den * Nat.pow 2 apart.toNat
  let exponent := max (-1074) (apart - if short then 53 else 52)
  let mantissa :=
    roundDiv (num * Nat.pow 2 (-exponent).toNat) (den * Nat.pow 2 exponent.toNat)
  let (mantissa, exponent) :=
    if mantissa = 2 * leastMantissa then (leastMantissa, exponent + 1) else (mantissa, exponent)
  if 971 < exponent then none
  else some ⟨mantissa, exponent, mantissa = leastMantissa ∧ -1074 < exponent⟩

/-- A double. -/
inductive Double where
  | finite (negative : Bool) (magnitude : Binary)
  | infinite (negative : Bool)
  | undefined
deriving DecidableEq, Repr

namespace Double

/-- The double nearest to `d · 10 ^ e`. Decimals that are far too large or too small are told by
the place of their first digit. -/
def nearest (negative : Bool) (d : Nat) (e : Int) : Double :=
  let magnitude : Int := (digits d).length + e
  if d = 0 ∨ magnitude < -330 then .finite negative ⟨0, -1074, false⟩
  else if 310 < magnitude then .infinite negative
  else
    match Binary.nearest? (d * Nat.pow 10 e.toNat) (Nat.pow 10 (-e).toNat) with
    | some b => .finite negative b
    | none => .infinite negative

/-- The layout without exponents: all doubles are within its bounds. -/
def positional : Layout := ⟨-400, 400, 'e'⟩

def text : Double → String
  | .finite negative b =>
    let shown :=
      if b.mantissa = 0 then ['0', '.', '0']
      else
        let (d, e) := b.shortest
        positional.write (digits d) e
    String.ofList (if negative then '-' :: shown else shown)
  | .infinite negative => if negative then "-inf" else "inf"
  | .undefined => "NaN"

end Double

end Flowgraph.Decimal
