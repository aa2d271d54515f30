import Chartboard.Text.Hidden

/-!
# Text shown in messages

A text that a message quotes must show what it holds, so characters that leave no mark of their
own are written as escapes: controls, formats, blanks other than the plain one, private use, and
marks that join the character in front of them.
-/

namespace Chartboard.Text

/-- A character inside quotes. -/
def showChar (c : Char) : List Char :=
  if c = '"' then ['\\', '"']
  else if c = '\\' then ['\\', '\\']
  else if c = '\t' then ['\\', 't']
  else if c = '\n' then ['\\', 'n']
  else if c = '\r' then ['\\', 'r']
  else if c.toNat = 0 then ['\\', '0']
  else if c.toNat < 0x20 ∨ c.toNat = 0x7F ∨ isHidden c then
    ['\\', 'u', '\x7b'] ++ Nat.toDigits 16 c.toNat ++ ['\x7d']
  else [c]

/-- A text in quotes, with escapes for quotes, backslashes and all that leaves no mark. -/
def shown (s : String) : String :=
  String.ofList ('"' :: (s.toList.flatMap showChar ++ ['"']))

end Chartboard.Text
