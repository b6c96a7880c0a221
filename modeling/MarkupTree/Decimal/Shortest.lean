import MarkupTree.Decimal.Binary64

/-!
# Decimal.Shortest: the fewest digits that read back

Among all decimals that round to a given floating-point number, the ones with the fewest
digits are taken, and of those the nearest. All comparisons are exact.

- `readsBack` says that a decimal rounds to `m * 2 ^ q`.
- `shortest` searches the decimal grids from the coarsest to the finest.
-/

namespace MarkupTree
namespace Decimal

/-- The decimal `digits * 10 ^ exponent`. -/
structure Scaled where
  digits : Nat
  exponent : Int
  deriving DecidableEq, Repr

/-- Compares `a * 10 ^ i` with `b * 2 ^ j`. -/
def compareScaled (a : Nat) (i : Int) (b : Nat) (j : Int) : Ordering :=
  compare (a * power 10 i.toNat * power 2 (-j).toNat) (b * power 2 j.toNat * power 10 (-i).toNat)

/-- Whether a decimal lies among the reals that round to `m * 2 ^ q`. The gap below a power of
two is half as wide, and both ends belong to the interval when `m` is even. -/
def readsBack (m : Nat) (q : Int) (d : Scaled) : Bool :=
  let low := if m = power 2 52 ∧ -1074 < q then 4 * m - 1 else 4 * m - 2
  let below := compareScaled d.digits d.exponent low (q - 2)
  let above := compareScaled d.digits d.exponent (4 * m + 2) (q - 2)
  let closed := m % 2 == 0
  (below == .gt || (closed && below == .eq)) && (above == .lt || (closed && above == .eq))

/-- The whole number of steps `10 ^ g` in `m * 2 ^ q`. -/
def stepsBelow (m : Nat) (q g : Int) : Nat :=
  m * power 2 q.toNat * power 10 (-g).toNat / (power 2 (-q).toNat * power 10 g.toNat)

/-- The least `k` from `k` on with `m * 2 ^ q < 10 ^ k`, within so many steps. -/
def scaleFrom (m : Nat) (q : Int) : (steps : Nat) → (k : Int) → Int
  | 0, k => k
  | steps + 1, k => if compareScaled 1 k m q == .gt then k else scaleFrom m q steps (k + 1)

/-- The least `k` with `m * 2 ^ q < 10 ^ k`: an estimate from below, then exact steps. -/
def scale (m : Nat) (q : Int) : Int :=
  scaleFrom m q 4 (((m.log2 : Int) + q) * 30103 / 100000 - 1)

/-- The decimal next to `m * 2 ^ q` on the grid `10 ^ g`, if one reads back: the nearer of the
two neighbours, the even one when they are equally near. -/
def onGrid? (m : Nat) (q g : Int) : Option Scaled :=
  let low := stepsBelow m q g
  let below : Scaled := ⟨low, g⟩
  let above : Scaled := ⟨low + 1, g⟩
  if readsBack m q below then
    if readsBack m q above then
      match compareScaled (2 * low + 1) g m (q + 1) with
      | .gt => some below
      | .lt => some above
      | .eq => some (if low % 2 = 0 then below else above)
    else some below
  else if readsBack m q above then some above
  else none

/-- The first grid that holds a decimal which reads back, among so many grids. -/
def search (m : Nat) (q : Int) : (grids : Nat) → (g : Int) → Option Scaled
  | 0, _ => none
  | grids + 1, g =>
    match onGrid? m q g with
    | some d => some d
    | none => search m q grids (g - 1)

def stripZeros : (fuel : Nat) → Scaled → Scaled
  | 0, d => d
  | fuel + 1, d =>
    if d.digits ≠ 0 ∧ d.digits % 10 = 0 then stripZeros fuel ⟨d.digits / 10, d.exponent + 1⟩
    else d

/-- The nearest of the shortest decimals that read back to `m * 2 ^ q`, for a positive `m`. -/
def shortest (m : Nat) (q : Int) : Scaled :=
  match search m q 17 (scale m q - 1) with
  | some d => stripZeros 20 d
  | none => ⟨m * power 2 q.toNat * power 5 (-q).toNat, min q 0⟩

end Decimal
end MarkupTree
