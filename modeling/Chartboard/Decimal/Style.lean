import Chartboard.Decimal.Shortest

/-!
# Written doubles

`FloatStyle` holds the decisions of a written form: which exponents are written positionally and
how an exponent is signed. The digits are always the shortest ones.
-/

namespace Chartboard

/-- How a finite double is written. -/
structure FloatStyle where
  /-- The smallest exponent of the leading digit that is written positionally. -/
  positionalFrom : Int := -5
  /-- The first exponent of the leading digit that is no longer written positionally. -/
  positionalBelow : Int := 16
  /-- A positive exponent carries its sign. -/
  signedExponent : Bool
  deriving DecidableEq, Repr

namespace FloatStyle

/-- Digits around a point; there is always a digit on both sides of it. -/
def positional (digits : List Char) (leading : Int) : List Char :=
  if leading < 0 then
    '0' :: '.' :: (List.replicate (-leading - 1).toNat '0' ++ digits)
  else
    let whole := leading.toNat + 1
    if digits.length ≤ whole then
      digits ++ List.replicate (whole - digits.length) '0' ++ ['.', '0']
    else digits.take whole ++ '.' :: digits.drop whole

/-- One digit, the other digits behind a point if there are any, and the exponent. -/
def scientific (style : FloatStyle) (digits : List Char) (leading : Int) : List Char :=
  let mantissa := match digits with
    | [] => []
    | [d] => [d]
    | d :: rest => d :: '.' :: rest
  let sign := if leading < 0 then ['-'] else if style.signedExponent then ['+'] else []
  mantissa ++ 'e' :: sign ++ Nat.toDigits 10 leading.natAbs

/-- The text of a finite double. -/
def render (style : FloatStyle) (x : Float) : String :=
  let d := Decimal.shortest x
  let digits := Nat.toDigits 10 d.coefficient
  let leading : Int := digits.length - 1 + d.exponent
  let body :=
    if style.positionalFrom ≤ leading ∧ leading < style.positionalBelow then
      positional digits leading
    else style.scientific digits leading
  String.ofList (if Double.isNegative x then '-' :: body else body)

end FloatStyle

end Chartboard
