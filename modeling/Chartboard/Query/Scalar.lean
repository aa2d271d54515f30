import Chartboard.Decimal.Text
import Chartboard.Json.Printer
import Chartboard.Text.Blank

/-!
# Scalar values

How queries and charts look at a single value: as a number, as a label, and as something to be
compared with a filter or put into an order.
-/

namespace Chartboard

namespace Json.Value

/-- The value as a number: a number itself, or a text that is one apart from blanks around it. -/
def asNumber? : Value → Option Float
  | number n => some n.toFloat
  | string s => Double.ofText? (Text.trim s)
  | _ => none

/-- The value as a label: a text itself, and the JSON text of anything else. -/
def label : Value → String
  | string s => s
  | v => v.compress

/-- The value is a JSON number. -/
def isNumber : Value → Bool
  | number _ => true
  | _ => false

/-- The value is the null literal. -/
def isNull : Value → Bool
  | null => true
  | _ => false

/-- The value is a number without point and exponent. -/
def isInteger : Value → Bool
  | number (.int _) => true
  | _ => false

/-- A cell agrees with the value of a filter: as numbers if both are and one of them is a JSON
number, and as labels otherwise. -/
def matchesFilter (cell expected : Value) : Bool :=
  match cell.asNumber?, expected.asNumber? with
  | some x, some y =>
    if cell.isNumber || expected.isNumber then x == y else cell.label == expected.label
  | _, _ => cell.label == expected.label

/-- The order of two doubles; what cannot be compared is a tie. -/
def compareNumbers (x y : Float) : Ordering :=
  if x < y then .lt else if y < x then .gt else .eq

/-- What decides the place of a value in an order. -/
structure Standing where
  /-- The value as a number, if it is one. -/
  number? : Option Float
  /-- The value as a label. -/
  label : String

/-- The standing of a value. -/
def standing (v : Value) : Standing :=
  { number? := v.asNumber?, label := v.label }

/-- The ascending order of two standings: as numbers if both are, and as labels otherwise. -/
def Standing.order (a b : Standing) : Ordering :=
  match a.number?, b.number? with
  | some x, some y => compareNumbers x y
  | _, _ => compare a.label b.label

end Json.Value

end Chartboard
