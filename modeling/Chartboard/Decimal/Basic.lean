/-!
# Decimals and doubles

A decimal is a natural coefficient times a power of ten. `Decimal.toFloat` rounds it to the
nearest double; `Binary.ofFloat` gives the exact value of a finite double as a natural
coefficient times a power of two.
-/

namespace Chartboard

/-- The unsigned number `coefficient * 10 ^ exponent`. -/
structure Decimal where
  /-- The digits, read as one natural number. -/
  coefficient : Nat
  /-- The power of ten that scales the coefficient. -/
  exponent : Int
  deriving DecidableEq, Repr

/-- The unsigned number `coefficient * 2 ^ exponent`. -/
structure Binary where
  /-- The significand, read as one natural number. -/
  coefficient : Nat
  /-- The power of two that scales the coefficient. -/
  exponent : Int
  deriving DecidableEq, Repr

namespace Binary

/-- The magnitude of a finite double. The eleven exponent bits hold zero for the subnormals, which
share the scale of the smallest normal numbers but lack their hidden bit. -/
def ofFloat (x : Float) : Binary :=
  let bits : Nat := x.toBits.toNat
  let biased : Nat := bits / 0x10000000000000 % 0x800
  let fraction : Nat := bits % 0x10000000000000
  if biased = 0 then ⟨fraction, -1074⟩ else ⟨0x10000000000000 + fraction, (biased : Int) - 1075⟩

/-- The largest natural number that is not above the magnitude. -/
def floor (b : Binary) : Nat :=
  if 0 ≤ b.exponent then b.coefficient * Nat.pow 2 b.exponent.toNat
  else b.coefficient / Nat.pow 2 (-b.exponent).toNat

/-- The magnitude is a natural number. -/
def isWhole (b : Binary) : Bool :=
  0 ≤ b.exponent || b.coefficient % Nat.pow 2 (-b.exponent).toNat == 0

end Binary

/-- The sign bit of a double, which negative zero has too. -/
def Double.isNegative (x : Float) : Bool :=
  x.toBits.toNat / 0x8000000000000000 == 1

/-- Positive infinity. -/
def Double.infinity : Float :=
  Float.ofBits 0x7FF0000000000000

/-- A finite double without a fractional part, as an integer. -/
def Double.toInt? (x : Float) : Option Int :=
  let b := Binary.ofFloat x
  if x.isFinite && b.isWhole then
    some (if Double.isNegative x then -(b.floor : Int) else b.floor)
  else none

namespace Decimal

/-- The number of decimal digits of a natural number; zero has one. -/
def width (n : Nat) : Nat :=
  (Nat.toDigits 10 n).length

/-- The double nearest to a decimal. Beyond the largest double this is infinity, and far below the
smallest it is zero; both are decided before any large power of ten is formed. -/
def toFloat (d : Decimal) : Float :=
  let magnitude : Int := width d.coefficient + d.exponent
  if d.coefficient = 0 ∨ magnitude < -400 then 0.0
  else if 400 < magnitude then Double.infinity
  else Float.ofScientific d.coefficient (d.exponent < 0) d.exponent.natAbs

end Decimal

end Chartboard
