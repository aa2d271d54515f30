import Chartboard.Decimal.Basic

/-!
# Doubles in texts

A text cell counts as a number when the whole text is one: digits with an optional sign, point and
exponent, or one of the words for infinity and for not a number in any case. A number beyond the
doubles is infinite.
-/

namespace Chartboard

namespace Decimal

/-- The natural number that some digits are. -/
def ofDigits (digits : List Char) : Nat :=
  digits.foldl (fun n c => n * 10 + (c.toNat - '0'.toNat)) 0

/-- A sign in front of a text, if there is one, and the rest; true means minus. -/
def splitSign : List Char → Bool × List Char
  | '-' :: rest => (true, rest)
  | '+' :: rest => (false, rest)
  | cs => (false, cs)

/-- The exponent that a whole text is: nothing, or a mark, an optional sign and digits. -/
def exponent? : List Char → Option Int
  | [] => some 0
  | c :: rest =>
    let (negative, digits) := splitSign rest
    if (c = 'e' ∨ c = 'E') ∧ digits ≠ [] ∧ digits.all Char.isDigit then
      some (if negative then -(ofDigits digits : Int) else ofDigits digits)
    else none

/-- The unsigned decimal that a whole text is. There is at least one digit before the exponent. -/
def ofChars? (cs : List Char) : Option Decimal :=
  let whole := cs.takeWhile Char.isDigit
  let rest := cs.dropWhile Char.isDigit
  let (fraction, rest) := match rest with
    | '.' :: rest => (rest.takeWhile Char.isDigit, rest.dropWhile Char.isDigit)
    | rest => ([], rest)
  if whole.isEmpty && fraction.isEmpty then none
  else (exponent? rest).map fun e => ⟨ofDigits (whole ++ fraction), e - fraction.length⟩

end Decimal

namespace Double

/-- The value of a word for an infinity or for not a number, in any case. -/
def ofWord? (cs : List Char) : Option Float :=
  match String.ofList (cs.map Char.toLower) with
  | "inf" | "infinity" => some infinity
  | "nan" => some (0.0 / 0.0)
  | _ => none

/-- The double that a whole text is. -/
def ofText? (text : String) : Option Float :=
  let (negative, cs) := Decimal.splitSign text.toList
  let magnitude := match Decimal.ofChars? cs with
    | some d => some d.toFloat
    | none => ofWord? cs
  magnitude.map fun x => if negative then -x else x

/-- The integer that a whole text is, if 64 bits hold it: an optional sign and digits. -/
def int64OfText? (text : String) : Option Int :=
  let (negative, digits) := Decimal.splitSign text.toList
  if digits ≠ [] ∧ digits.all Char.isDigit then
    let i : Int := if negative then -(Decimal.ofDigits digits : Int) else Decimal.ofDigits digits
    if -0x8000000000000000 ≤ i ∧ i < 0x8000000000000000 then some i else none
  else none

end Double

end Chartboard
