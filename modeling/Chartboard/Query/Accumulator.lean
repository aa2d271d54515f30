import Chartboard.Chart.Kind
import Chartboard.Query.Scalar

/-!
# Accumulators

An accumulator takes the values of one group and answers every function. Nulls are not counted,
and what is no number counts but adds nothing. Sum, least and greatest stay integers as long as all
numbers were integers and the result is one that a signed integer of 64 bits holds.
-/

namespace Chartboard

open Json (Value)

/-- What has been taken from the values of a group so far. -/
structure Accumulator where
  /-- How many values were not null. -/
  count : Nat := 0
  /-- How many values were numbers. -/
  numeric : Nat := 0
  /-- The sum of the numbers. -/
  sum : Float := 0.0
  /-- The least number. -/
  least : Option Float := none
  /-- The greatest number. -/
  greatest : Option Float := none
  /-- Some number was not an integer of JSON. -/
  fractional : Bool := false
  deriving Inhabited, Repr

namespace Double

/-- The lesser of two doubles; what is not a number yields to the other, and of two zeros the
first stays. -/
def least (m v : Float) : Float :=
  if m.isNaN then v else if v < m then v else m

/-- The greater of two doubles; what is not a number yields to the other, and of two zeros the
first stays. -/
def greatest (m v : Float) : Float :=
  if m.isNaN then v else if m < v then v else m

end Double

namespace Accumulator

/-- Takes one more value. -/
def push (acc : Accumulator) (value : Value) : Accumulator :=
  if value.isNull then acc
  else
    match value.asNumber? with
    | none => { acc with count := acc.count + 1 }
    | some v =>
      { count := acc.count + 1
        numeric := acc.numeric + 1
        sum := acc.sum + v
        least := some (match acc.least with | some m => Double.least m v | none => v)
        greatest := some (match acc.greatest with | some m => Double.greatest m v | none => v)
        fractional := acc.fractional || !value.isInteger }

/-- A number as an integer if all numbers were integers and it is below `2 ^ 63` in magnitude. -/
def scalar (acc : Accumulator) (x : Float) : Value :=
  match Double.toInt? x with
  | some i => if !acc.fractional && i.natAbs < 0x8000000000000000 then .int i else .ofFloat x
  | none => .ofFloat x

/-- The result of a function. -/
def finish (acc : Accumulator) : Aggregation → Value
  | .count => .int acc.count
  | .sum => acc.scalar acc.sum
  | .avg => if acc.numeric = 0 then .null else .ofFloat (acc.sum / Float.ofNat acc.numeric)
  | .min => match acc.least with
    | some x => acc.scalar x
    | none => .null
  | .max => match acc.greatest with
    | some x => acc.scalar x
    | none => .null

/-- The accumulator of some values, taken in their order. -/
def ofValues (values : List Value) : Accumulator :=
  values.foldl push {}

end Accumulator

end Chartboard
