import Flowgraph.Decimal.Layout
import Flowgraph.Decimal.Shortest

namespace Flowgraph.Json

/-- A number. A double is given by its bits, so that equality tells `-0.0` from `0.0`. -/
inductive Number where
  | int (n : Int)
  | float (bits : UInt64)
deriving DecidableEq, Repr, Inhabited

/-- Positional from `0.00001` to below `1e+16`. -/
def floatLayout : Decimal.Layout := ⟨-5, 15, 'e'⟩

def integerText : Int → List Char
  | .ofNat n => Decimal.digits n
  | .negSucc n => '-' :: Decimal.digits (n + 1)

def floatText (bits : UInt64) : List Char :=
  let magnitude := Decimal.Binary.ofBits bits
  let text :=
    if magnitude.mantissa = 0 then ['0', '.', '0']
    else
      let (d, e) := magnitude.shortest
      floatLayout.write (Decimal.digits d) e
  if 0x8000000000000000 ≤ bits.toNat then '-' :: text else text

def Number.text : Number → List Char
  | .int n => integerText n
  | .float bits => floatText bits

/-- A number literal by its parts: the digits before and after the point and the exponent, each
as digit values. -/
structure Literal where
  negative : Bool
  whole : List Nat
  fraction : Option (List Nat)
  exponent : Option (Bool × List Nat)

/-- Reads digits on from `n` while the value fits 64 bits, and counts the digits left out. -/
def gather (n : Nat) : List Nat → Nat × Nat
  | [] => (n, 0)
  | d :: rest =>
    if n * 10 + d < 0x10000000000000000 then gather (n * 10 + d) rest else (n, rest.length + 1)

/-- Multiplies by a power of ten in double arithmetic: by one factor where that is a double, in
steps of `1e-308` below. Fails beyond the range of doubles. -/
def scale : Nat → Float → Int → Option Float
  | 0, f, _ => some f
  | fuel + 1, f, e =>
    if e.natAbs ≤ 308 then
      if 0 ≤ e then
        let product := f * Float.ofScientific 1 false e.natAbs
        if product.isInf then none else some product
      else some (f / Float.ofScientific 1 false e.natAbs)
    else if f == 0 then some f
    else if 0 ≤ e then none
    else scale fuel (f / Float.ofScientific 1 false 308) (e + 308)

/-- The double with a given significand and decimal exponent. -/
def floatOf (negative : Bool) (significand : Nat) (exponent : Int) : Option Number :=
  (scale 4 (UInt64.ofNat significand).toFloat exponent).map fun f =>
    .float (if negative then -f else f).toBits

/-- The value of a literal. An integer of 64 bits stays one, but `-0` is a double; all else is a
double, made of the digits that fit 64 bits. Fails if it is too large for a double. -/
def Literal.value? (l : Literal) : Option Number :=
  let (head, dropped) := gather 0 l.whole
  match l.fraction, l.exponent with
  | none, none =>
    if dropped ≠ 0 then floatOf l.negative head dropped
    else if !l.negative then some (.int head)
    else if head = 0 ∨ 0x8000000000000000 < head then floatOf true head 0
    else some (.int (-head))
  | fraction, exponent =>
    let digits := fraction.getD []
    let (all, left) := gather head digits
    let point : Int := dropped - (digits.length - left : Nat)
    let power : Int := match exponent with
      | none => 0
      | some (negative, ds) =>
        let n : Nat := ds.foldl (fun n d => n * 10 + d) 0
        if negative then -(n : Int) else n
    floatOf l.negative all (point + power)

end Flowgraph.Json
