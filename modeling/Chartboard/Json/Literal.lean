import Chartboard.Decimal.Basic
import Chartboard.Json.Value

/-!
# Number literals

A literal is what the grammar of JSON numbers leaves: a sign, digits, a fraction and an exponent.
`Literal.toNumber?` says which number it denotes. Without fraction and exponent it is an integer
as long as 64 bits hold it. Otherwise it is a double, read from the digits that fit into 64 bits
and scaled by one power of ten in double arithmetic.
-/

namespace Chartboard.Json

/-- A number as it is written; the digits are values below ten. -/
structure Literal where
  /-- A minus sign stands in front. -/
  negative : Bool
  /-- The digits in front of the point. -/
  whole : List Nat
  /-- The digits behind the point; `none` without a point. -/
  fraction : Option (List Nat)
  /-- The exponent; `none` without one. -/
  exponent : Option Int
  deriving DecidableEq, Repr

namespace Literal

/-- Digits appended to a significand for as long as 64 bits hold it, and the digits left over. -/
def accumulate (significand : Nat) : List Nat → Nat × List Nat
  | [] => (significand, [])
  | d :: rest =>
    if significand * 10 + d < 0x10000000000000000 then accumulate (significand * 10 + d) rest
    else (significand, d :: rest)

/-- Division by a large power of ten, in steps that stay within the doubles. -/
def scaleDown (x : Float) (places : Nat) : Float :=
  if h : places ≤ 308 then x / Decimal.toFloat ⟨1, places⟩
  else if x == 0.0 then x
  else scaleDown (x / 1e308) (places - 308)
termination_by places
decreasing_by omega

/-- A significand times a power of ten in double arithmetic, unless that is beyond the doubles. -/
def scale? (significand : Nat) (exponent : Int) : Option Float :=
  let x := Float.ofNat significand
  if exponent < 0 then some (scaleDown x exponent.natAbs)
  else if exponent ≤ 308 then
    let scaled := x * Decimal.toFloat ⟨1, exponent⟩
    if scaled.isFinite then some scaled else none
  else if x == 0.0 then some x
  else none

/-- The double that a literal with a fraction, an exponent or too many digits denotes. Digits that
64 bits do not hold are dropped; in front of the point each still counts as a power of ten. -/
def toFloat? (l : Literal) : Option Float :=
  let (significand, dropped) := accumulate 0 l.whole
  let places := l.fraction.getD []
  let (significand, unread) := accumulate significand places
  let taken : Nat := places.length - unread.length
  let exponent : Int := (dropped.length : Int) - taken + l.exponent.getD 0
  (scale? significand exponent).map fun x => if l.negative then -x else x

/-- The number that a literal denotes; none if it is too large. Negative zero is a double. -/
def toNumber? (l : Literal) : Option Number :=
  let magnitude : Nat := l.whole.foldl (fun n d => n * 10 + d) 0
  let value : Int := if l.negative then -(magnitude : Int) else magnitude
  if l.fraction.isSome || l.exponent.isSome then (toFloat? l).map .float
  else if l.negative && magnitude == 0 then some (.float (-0.0))
  else if Number.inRange value then some (.int value)
  else (toFloat? l).map .float

end Literal

end Chartboard.Json
