import Flowgraph.Error

namespace Flowgraph

namespace Identifier

/-- The alphabet, in ASCII order. -/
def alphabet : List Char :=
  "-0123456789ABCDEFGHIJKLMNOPQRSTUVWXYZ_abcdefghijklmnopqrstuvwxyz".toList

def digitChar (d : Nat) : Char := alphabet.getD d '-'

/-- The last `width` digits of a number in base 64, most significant first, and what is left. -/
def digits : Nat → Nat → List Nat × Nat
  | 0, n => ([], n)
  | width + 1, n =>
    let (high, rest) := digits width (n / 64)
    (high ++ [n % 64], rest)

/-- The digits of a millisecond. Only those that fit eight digits have an identifier. -/
def timeDigits (now : Int) : Except GraphError (List Nat) :=
  if now < 0 then .error (.negativeTimestamp now)
  else
    let (ds, rest) := digits 8 now.toNat
    if rest ≠ 0 then .error .timestampTooLarge else .ok ds

/-- Counts up by one, most significant digit first; says whether the digits overflowed to zero. -/
def increment : List Nat → List Nat × Bool
  | [] => ([], true)
  | d :: ds =>
    let (ds, carry) := increment ds
    if carry then if d = 63 then (0 :: ds, true) else ((d + 1) :: ds, false) else (d :: ds, false)

/-- What a generator remembers: the last millisecond and the last suffix. -/
structure Generator where
  last : Option Int := none
  suffix : List Nat := List.replicate 12 0
deriving Inhabited

namespace Generator

/-- Makes an identifier at a time. A new millisecond takes the fresh suffix; the same one counts
the old suffix up, and fails when it is exhausted. -/
def generate (g : Generator) (now : Int) (fresh : List Nat) :
    Generator × Except GraphError String :=
  match timeDigits now with
  | .error e => (g, .error e)
  | .ok time =>
    let (suffix, exhausted) := if g.last = some now then increment g.suffix else (fresh, false)
    (⟨some now, suffix⟩,
      if exhausted then .error .suffixExhausted
      else .ok (String.ofList ((time ++ suffix).map digitChar)))

end Generator

end Identifier

end Flowgraph
