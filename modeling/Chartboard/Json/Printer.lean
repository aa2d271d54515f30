import Chartboard.Decimal.Style
import Chartboard.Json.Value

/-!
# Written JSON

`Value.compress` writes a value without any blanks, `Value.pretty` with one item or member a line,
indented by two blanks a level.
-/

namespace Chartboard.Json

/-- Doubles have a signed exponent from `1e+16` on. -/
def floatStyle : FloatStyle where
  signedExponent := true

/-- The text of a number. A double that is not finite has no number and is written as null. -/
def Number.text : Number → String
  | .int i => toString i
  | .float x => if x.isFinite then floatStyle.render x else "null"

/-- A hexadecimal digit in lower case. -/
def hexDigit (n : Nat) : Char :=
  (Nat.toDigits 16 (n % 16)).headD '0'

/-- A character inside a quoted text. Quote, backslash and the control characters are escaped. -/
def escapeChar (c : Char) : List Char :=
  if c = '"' then ['\\', '"']
  else if c = '\\' then ['\\', '\\']
  else if c = '\x08' then ['\\', 'b']
  else if c = '\x09' then ['\\', 't']
  else if c = '\x0a' then ['\\', 'n']
  else if c = '\x0c' then ['\\', 'f']
  else if c = '\x0d' then ['\\', 'r']
  else if c.toNat < 0x20 then
    ['\\', 'u', '0', '0', hexDigit (c.toNat / 16), hexDigit c.toNat]
  else [c]

/-- A text in quotes. -/
def quote (s : String) : List Char :=
  '"' :: (s.toList.flatMap escapeChar ++ ['"'])

namespace Value

mutual

/-- A value without blanks. -/
def chars : Value → List Char
  | null => "null".toList
  | bool true => "true".toList
  | bool false => "false".toList
  | number n => n.text.toList
  | string s => quote s
  | array [] => ['[', ']']
  | array (v :: rest) => '[' :: (chars v ++ itemChars rest)
  | object [] => ['\x7b', '\x7d']
  | object ((k, v) :: rest) => '\x7b' :: (quote k ++ ':' :: (chars v ++ memberChars rest))

/-- The items after the first, each behind a comma, and the closing bracket. -/
def itemChars : List Value → List Char
  | [] => [']']
  | v :: rest => ',' :: (chars v ++ itemChars rest)

/-- The members after the first, each behind a comma, and the closing brace. -/
def memberChars : List (String × Value) → List Char
  | [] => ['\x7d']
  | (k, v) :: rest => ',' :: (quote k ++ ':' :: (chars v ++ memberChars rest))

end

/-- The compact text of a value. -/
def compress (v : Value) : String :=
  String.ofList v.chars

/-- A new line at a level of nesting. -/
def newLine (level : Nat) : List Char :=
  '\n' :: List.replicate (2 * level) ' '

mutual

/-- A value spread over lines, at a level of nesting. Empty containers stay on one line. -/
def prettyChars (level : Nat) : Value → List Char
  | array (v :: rest) =>
    '[' :: (newLine (level + 1) ++ prettyChars (level + 1) v ++ prettyItems level rest)
  | object ((k, v) :: rest) =>
    '\x7b' :: (newLine (level + 1) ++ quote k ++ ':' :: ' ' ::
      (prettyChars (level + 1) v ++ prettyMembers level rest))
  | array [] => ['[', ']']
  | object [] => ['\x7b', '\x7d']
  | null => "null".toList
  | bool true => "true".toList
  | bool false => "false".toList
  | number n => n.text.toList
  | string s => quote s

/-- The items after the first and the closing bracket. -/
def prettyItems (level : Nat) : List Value → List Char
  | [] => newLine level ++ [']']
  | v :: rest =>
    ',' :: (newLine (level + 1) ++ prettyChars (level + 1) v ++ prettyItems level rest)

/-- The members after the first and the closing brace. -/
def prettyMembers (level : Nat) : List (String × Value) → List Char
  | [] => newLine level ++ ['\x7d']
  | (k, v) :: rest =>
    ',' :: (newLine (level + 1) ++ quote k ++ ':' :: ' ' ::
      (prettyChars (level + 1) v ++ prettyMembers level rest))

end

/-- The text of a value over several lines. -/
def pretty (v : Value) : String :=
  String.ofList (v.prettyChars 0)

mutual

/-- The same value with the members of every object sorted by key. -/
def canonical : Value → Value
  | array items => array (canonicalItems items)
  | object members => ofMembers (canonicalMembers members)
  | v => v

/-- The items in canonical form. -/
def canonicalItems : List Value → List Value
  | [] => []
  | v :: rest => canonical v :: canonicalItems rest

/-- The members with values in canonical form. -/
def canonicalMembers : List (String × Value) → List (String × Value)
  | [] => []
  | (k, v) :: rest => (k, canonical v) :: canonicalMembers rest

end

end Value

end Chartboard.Json
