/-!
# Natural numbers in texts

A natural number is written with decimal digits, with or without a plus sign in front of them. It
is read from the left, and the first fault that is met is the answer.
-/

namespace Chartboard.Text

/-- Why a text is no natural number. -/
inductive NaturalFault where
  /-- There is nothing to read. -/
  | empty
  /-- A character is no digit. -/
  | badDigit
  /-- The number is not below its bound. -/
  | tooLarge
  deriving DecidableEq, Repr

/-- The message for the user. -/
def NaturalFault.message : NaturalFault → String
  | empty => "cannot parse integer from empty string"
  | badDigit => "invalid digit found in string"
  | tooLarge => "number too large to fit in target type"

/-- The number behind one more digit. -/
def pushDigit (bound n : Nat) (c : Char) : Except NaturalFault Nat :=
  if c.isDigit then
    let next := n * 10 + (c.toNat - '0'.toNat)
    if next < bound then .ok next else .error .tooLarge
  else .error .badDigit

/-- The bound of numbers that count things in memory, `2 ^ 64`. -/
def countBound : Nat := 0x10000000000000000

/-- The natural number of a text, which has to be below a bound. -/
def natural (bound : Nat) (s : String) : Except NaturalFault Nat :=
  match s.toList with
  | [] => .error .empty
  | ['+'] => .error .badDigit
  | '+' :: digits => digits.foldlM (pushDigit bound) 0
  | digits => digits.foldlM (pushDigit bound) 0

end Chartboard.Text
