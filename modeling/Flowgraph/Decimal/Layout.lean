namespace Flowgraph.Decimal

def digits (n : Nat) : List Char := Nat.toDigits 10 n

/-- How doubles are written out: positionally while the exponent of the leading digit is within
bounds, with a mark and a signed exponent otherwise. -/
structure Layout where
  leastPositional : Int
  mostPositional : Int
  mark : Char

/-- Writes `digits · 10 ^ e`; whole numbers keep a decimal point when positional. -/
def Layout.write (layout : Layout) (ds : List Char) (e : Int) : List Char :=
  let leading := ds.length + e - 1
  if layout.leastPositional ≤ leading ∧ leading ≤ layout.mostPositional then
    if 0 ≤ e then ds ++ List.replicate e.toNat '0' ++ ['.', '0']
    else if 0 ≤ leading then
      ds.take (leading.toNat + 1) ++ '.' :: ds.drop (leading.toNat + 1)
    else '0' :: '.' :: List.replicate (-leading - 1).toNat '0' ++ ds
  else
    let rest := ds.drop 1
    ds.take 1 ++ (if rest.isEmpty then [] else '.' :: rest) ++
      layout.mark :: (if leading < 0 then '-' else '+') :: digits leading.natAbs

end Flowgraph.Decimal
