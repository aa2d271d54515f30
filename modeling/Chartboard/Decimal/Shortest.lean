import Chartboard.Decimal.Basic

/-!
# Shortest decimals

The reals that round to a given double form an interval. `Decimal.shortest` looks on the grids of
one, two, … seventeen digits for a point of that interval next to the double, and takes the first
grid that has one. Seventeen digits always suffice for a double.
-/

namespace Chartboard

/-- The reals that round to one double, scaled so that its bounds are natural numbers:
everything is counted in units of `2 ^ exponent`. -/
structure RoundingInterval where
  /-- The double itself. -/
  value : Nat
  /-- The lower bound. -/
  low : Nat
  /-- The upper bound. -/
  high : Nat
  /-- The bounds themselves round to the double, since ties go to the even coefficient. -/
  closed : Bool
  /-- The power of two that is the unit. -/
  exponent : Int
  deriving DecidableEq, Repr

namespace RoundingInterval

/-- The interval of a double: half way to its neighbours. Below a power of two the neighbour is
only half as far, except at the bottom of the range, where the spacing no longer halves. -/
def ofBinary (b : Binary) : RoundingInterval where
  value := 4 * b.coefficient
  low := if b.coefficient = 0x10000000000000 ∧ -1074 < b.exponent then 4 * b.coefficient - 1
    else 4 * b.coefficient - 2
  high := 4 * b.coefficient + 2
  closed := b.coefficient % 2 == 0
  exponent := b.exponent - 2

/-- Multiplier that turns interval units into the common denominator with `10 ^ k`. -/
def unitScale (r : RoundingInterval) (k : Int) : Nat :=
  Nat.pow 2 r.exponent.toNat * Nat.pow 10 (-k).toNat

/-- Multiplier that turns multiples of `10 ^ k` into the common denominator. -/
def gridScale (r : RoundingInterval) (k : Int) : Nat :=
  Nat.pow 2 (-r.exponent).toNat * Nat.pow 10 k.toNat

/-- The decimal `c * 10 ^ k` lies in the interval. -/
def contains (r : RoundingInterval) (k : Int) (c : Nat) : Bool :=
  let point := c * r.gridScale k
  let low := r.low * r.unitScale k
  let high := r.high * r.unitScale k
  if r.closed then low ≤ point && point ≤ high else low < point && point < high

/-- The grid point just below the double, in multiples of `10 ^ k`. -/
def below (r : RoundingInterval) (k : Int) : Nat :=
  r.value * r.unitScale k / r.gridScale k

/-- Of the two grid points next to the double, the one in the interval; of two, the nearer, and on
an exact tie the even one. -/
def onGrid? (r : RoundingInterval) (k : Int) : Option Nat :=
  let c := r.below k
  let down := r.value * r.unitScale k - c * r.gridScale k
  let up := (c + 1) * r.gridScale k - r.value * r.unitScale k
  match r.contains k c, r.contains k (c + 1) with
  | false, false => none
  | true, false => some c
  | false, true => some (c + 1)
  | true, true =>
    if down < up then some c
    else if up < down then some (c + 1)
    else if c % 2 = 0 then some c else some (c + 1)

/-- The exponent of the leading digit, from the binary magnitude: `log10 2` is within five
millionths of `0.30103`, so the estimate is exact or one too small. -/
def leadingExponent (r : RoundingInterval) : Int :=
  let binaryMagnitude : Int := Nat.log2 r.value + r.exponent
  let estimate := (binaryMagnitude * 30103).fdiv 100000
  if r.below (estimate + 1) = 0 then estimate else estimate + 1

/-- The first hit on the grids `10 ^ k`, `10 ^ (k - 1)`, …; the last grid is taken as it is. -/
def search (r : RoundingInterval) : Nat → Int → Decimal
  | 0, k => ⟨r.below k, k⟩
  | fuel + 1, k =>
    match r.onGrid? k with
    | some c => ⟨c, k⟩
    | none => r.search fuel (k - 1)

end RoundingInterval

namespace Decimal

/-- The same number without trailing zeros in the coefficient. -/
def normalize (d : Decimal) : Decimal :=
  if h : d.coefficient ≠ 0 ∧ d.coefficient % 10 = 0 then
    normalize ⟨d.coefficient / 10, d.exponent + 1⟩
  else d
termination_by d.coefficient
decreasing_by omega

/-- The decimal of fewest digits that rounds to the magnitude of a finite double, and of those the
nearest. -/
def shortest (x : Float) : Decimal :=
  let b := Binary.ofFloat x
  if b.coefficient = 0 then ⟨0, 0⟩
  else
    let r := RoundingInterval.ofBinary b
    (r.search 17 r.leadingExponent).normalize

end Decimal

end Chartboard
