import Chartboard.Text.Ranges

/-!
# Blank text

The blanks are the characters of the property `White_Space`. A name or cell of blanks alone counts
as absent, and cells are compared and read without the blanks around them.
-/

namespace Chartboard.Text

/-- The code points of `White_Space`. -/
def blankRanges : CodeRanges :=
  [(0x09, 0x0D), (0x20, 0x20), (0x85, 0x85), (0xA0, 0xA0), (0x1680, 0x1680), (0x2000, 0x200A),
   (0x2028, 0x2029), (0x202F, 0x202F), (0x205F, 0x205F), (0x3000, 0x3000)]

/-- The character is a blank. -/
def isBlank (c : Char) : Bool :=
  blankRanges.has c

/-- What is left of a list of characters without the blanks at both ends. -/
def trimChars (cs : List Char) : List Char :=
  ((cs.dropWhile isBlank).reverse.dropWhile isBlank).reverse

/-- The text without the blanks at both ends. -/
def trim (s : String) : String :=
  String.ofList (trimChars s.toList)

/-- There is nothing but blanks in the text. -/
def isBlankText (s : String) : Bool :=
  s.toList.all isBlank

end Chartboard.Text
