import Chartboard.SortedMap

/-!
# JSON values

Integers and doubles are different numbers: `1` and `1.0` are two values. The members of an object
keep the order they are given in; `Value.ofMembers` builds the canonical object, sorted by key and
with the last value of a repeated key.
-/

namespace Chartboard.Json

/-- A JSON number. -/
inductive Number where
  /-- A number written without point and exponent. -/
  | int (i : Int)
  /-- A finite double. -/
  | float (x : Float)
  deriving DecidableEq, Repr

namespace Number

/-- The integers that stay integers: those of 64 bits, signed or unsigned. -/
def inRange (i : Int) : Bool :=
  -0x8000000000000000 ≤ i && i < 0x10000000000000000

/-- The nearest double. -/
def toFloat : Number → Float
  | int i => Float.ofInt i
  | float x => x

/-- Comparison of filter values: integers and doubles never agree, and the two zeros do. -/
def same : Number → Number → Bool
  | int i, int j => i == j
  | float x, float y => x == y
  | _, _ => false

end Number

/-- A JSON value. -/
inductive Value where
  /-- The null literal. -/
  | null
  /-- A boolean. -/
  | bool (b : Bool)
  /-- A number. -/
  | number (n : Number)
  /-- A text. -/
  | string (s : String)
  /-- A sequence of values. -/
  | array (items : List Value)
  /-- Named values in the order in which they are written. -/
  | object (members : List (String × Value))
  deriving Inhabited, Repr

namespace Value

/-- An integer value. -/
abbrev int (i : Int) : Value := number (.int i)

/-- A finite double as a value; what is not finite has no number and becomes null. -/
def ofFloat (x : Float) : Value :=
  if x.isFinite then number (.float x) else null

mutual

/-- Two values agree when their numbers, texts and structure do; doubles are compared as numbers,
so the two zeros agree. -/
def same : Value → Value → Bool
  | null, null => true
  | bool a, bool b => a == b
  | number m, number n => m.same n
  | string s, string t => s == t
  | array xs, array ys => sameItems xs ys
  | object xs, object ys => sameMembers xs ys
  | _, _ => false

/-- Item by item comparison. -/
def sameItems : List Value → List Value → Bool
  | [], [] => true
  | x :: xs, y :: ys => same x y && sameItems xs ys
  | _, _ => false

/-- Member by member comparison, names included. -/
def sameMembers : List (String × Value) → List (String × Value) → Bool
  | [], [] => true
  | (k, x) :: xs, (l, y) :: ys => k == l && same x y && sameMembers xs ys
  | _, _ => false

end

/-- The canonical object of some members. -/
def ofMembers (members : List (String × Value)) : Value :=
  object (SortedMap.ofList members).entries

/-- The value of a member of an object. -/
def member? (key : String) : Value → Option Value
  | object members => members.lookup key
  | _ => none

mutual

/-- Every object inside is sorted by key without repetition, every integer is within the 64-bit
range and every double is finite. -/
def isCanonical : Value → Bool
  | null | bool _ | string _ => true
  | number (.int i) => Number.inRange i
  | number (.float x) => x.isFinite
  | array items => areCanonical items
  | object members => sorted members && membersCanonical members

/-- Every item is canonical. -/
def areCanonical : List Value → Bool
  | [] => true
  | v :: rest => isCanonical v && areCanonical rest

/-- Every member's value is canonical. -/
def membersCanonical : List (String × Value) → Bool
  | [] => true
  | (_, v) :: rest => isCanonical v && membersCanonical rest

/-- Keys strictly ascend. -/
def sorted : List (String × Value) → Bool
  | [] | [_] => true
  | (k, _) :: (l, w) :: rest => k < l && sorted ((l, w) :: rest)

end

mutual

/-- How many containers are nested in a value at the deepest place. -/
def depth : Value → Nat
  | array items => itemsDepth items + 1
  | object members => membersDepth members + 1
  | _ => 0

/-- The depth of the deepest item. -/
def itemsDepth : List Value → Nat
  | [] => 0
  | v :: rest => max (depth v) (itemsDepth rest)

/-- The depth of the deepest member. -/
def membersDepth : List (String × Value) → Nat
  | [] => 0
  | (_, v) :: rest => max (depth v) (membersDepth rest)

end

end Value

end Chartboard.Json
