import Chartboard.Text.Columns
import Chartboard.Text.Emoji

/-!
# Ligatures

Some characters take other columns together than each by itself: emoji of several characters,
letters of a few scripts that are drawn as one, and characters in front of a selector of style.
A text is read from its end, and what stands behind a character is kept as far as it bears on the
columns of the characters in front.
-/

namespace Chartboard.Text

/-- What stands right behind a character. -/
inductive Behind where
  /-- Nothing that bears on its columns. -/
  | nothing
  /-- A line feed. -/
  | lineFeed
  /-- A tone of skin. -/
  | skinTone
  /-- A letter of a flag. -/
  | flagLetter
  /-- Several letters of flags. -/
  | flagLetters
  /-- A picture. -/
  | picture
  /-- A joiner with a picture behind it, to which a keycap may be added. -/
  | joiner (keycap : Bool)
  /-- A letter of a flag in front of a joiner and a picture. -/
  | joinedFlagLetter
  /-- An even number of letters of flags in front of a joiner and a picture. -/
  | joinedFlagsEven
  /-- An odd number of letters of flags, three at least, in front of a joiner and a picture. -/
  | joinedFlagsOdd
  /-- So many letters, no more than six, and the end of a tag in front of a joiner and a picture. -/
  | tagLetters (count : Nat)
  /-- So many digits, no more than three, in a tag in front of a joiner and a picture. -/
  | tagDigits (count : Nat)
  /-- The letter alef, perhaps with marks in front of it. -/
  | alef
  /-- The letter lamed, perhaps with a joiner in front of it. -/
  | lamed (joined : Bool)
  /-- The Buginese letter ya, perhaps with a joiner in front of it. -/
  | ya (joined : Bool)
  /-- The Buginese vowel sign i in front of a joiner and a ya. -/
  | vowelYa
  /-- A Tifinagh consonant, perhaps with a joiner in front of it. -/
  | tifinagh (joined : Bool)
  /-- The Tifinagh consonant joiner in front of a consonant. -/
  | tifinaghPair
  /-- A Lisu tone letter that ends a pair. -/
  | lisuTone
  /-- The Old Turkic letter that ends a ligature, perhaps with a joiner in front of it. -/
  | orkhon (joined : Bool)
  /-- A Khmer letter that has a form below the line. -/
  | khmer
  /-- The Kirat Rai vowel sign e. -/
  | kiratE
  /-- The Kirat Rai vowel sign ai, or two signs e. -/
  | kiratAi
  deriving DecidableEq, Repr, Inhabited

/-- What stands behind a character, and the selectors of style between the two. -/
structure Context where
  /-- What stands behind it. -/
  behind : Behind := .nothing
  /-- A selector asks for a picture. -/
  asPicture : Bool := false
  /-- A selector asks for text. -/
  asText : Bool := false
  /-- A selector asks for a wide quotation mark. -/
  asWide : Bool := false
  deriving DecidableEq, Repr, Inhabited

namespace Behind

/-- It is a part of a ligature of letters. -/
def isScript : Behind → Bool
  | alef | lamed _ | ya _ | vowelYa | tifinagh _ | tifinaghPair | lisuTone | orkhon _ | khmer =>
    true
  | _ => false

/-- It is a joiner of pictures. -/
def isJoiner : Behind → Bool
  | joiner _ => true
  | _ => false

/-- It is a part of a ligature that joiners and ignorable marks do not part. -/
def isOpen : Behind → Bool
  | alef => false
  | b => b.isScript

/-- It with a joiner in front of it. -/
def join : Behind → Behind
  | lamed _ => lamed true
  | ya _ => ya true
  | tifinagh _ => tifinagh true
  | orkhon _ => orkhon true
  | b => b

end Behind

namespace Context

/-- The context in front of a selector of pictures. -/
def askPicture (ctx : Context) : Context :=
  if ctx.behind.isScript || ctx.behind.isJoiner then { ctx with asPicture := true }
  else { asPicture := true }

/-- The context where a selector of pictures has no effect. A joiner behind it has none either. -/
def dropPicture (ctx : Context) : Context :=
  if !ctx.asPicture then ctx
  else if ctx.behind.isScript then { ctx with asPicture := false }
  else {}

/-- The context in front of a selector of text. -/
def askText (ctx : Context) : Context :=
  if ctx.behind.isScript then { ctx with asText := true } else { asText := true }

/-- The context where a selector of text has no effect. -/
def dropText (ctx : Context) : Context :=
  if !ctx.asText then ctx
  else if ctx.behind.isScript then { ctx with asText := false }
  else {}

/-- The context in front of a selector of wide quotation marks. -/
def askWide (ctx : Context) : Context :=
  if ctx.behind.isScript then { ctx with asWide := true } else { asWide := true }

/-- The context where a selector of wide quotation marks has no effect. -/
def dropWide (ctx : Context) : Context :=
  if !ctx.asWide then ctx
  else if ctx.behind.isScript then { ctx with asWide := false }
  else {}

end Context

/-! ## Characters of ligatures -/

/-- The character joins what is on both sides of it. -/
def isZeroWidthJoiner (c : Char) : Bool := c.toNat = 0x200D

/-- The selector of pictures. -/
def isPictureSelector (c : Char) : Bool := c.toNat = 0xFE0F

/-- The selector of text. -/
def isTextSelector (c : Char) : Bool := c.toNat = 0xFE0E

/-- The selector of wide quotation marks. -/
def isWideSelector (c : Char) : Bool := c.toNat = 0xFE01

/-- Marks that are ignored where they are not supported. -/
def ignorableMarks : CodeRanges :=
  [(0x34F, 0x34F), (0x17B4, 0x17B5), (0x180B, 0x180D), (0x180F, 0x180F), (0xFE00, 0xFE0F),
   (0xE0100, 0xE01EF)]

/-- Letters of the group of alef. -/
def alefRanges : CodeRanges :=
  [(0x622, 0x623), (0x625, 0x625), (0x627, 0x627), (0x671, 0x673), (0x675, 0x675),
   (0x773, 0x774), (0x870, 0x882)]

/-- Letters of the group of lam. -/
def lamRanges : CodeRanges :=
  [(0x644, 0x644), (0x6B5, 0x6B8), (0x76A, 0x76A), (0x8A6, 0x8A6), (0x8C7, 0x8C7)]

/-- Khmer letters that have a form below the line. -/
def khmerRanges : CodeRanges :=
  [(0x1780, 0x1782), (0x1784, 0x1787), (0x1789, 0x178C), (0x178E, 0x1793), (0x1795, 0x1798),
   (0x179B, 0x179D), (0x17A0, 0x17A0), (0x17A2, 0x17A2), (0x17A7, 0x17A7), (0x17AB, 0x17AC),
   (0x17AF, 0x17AF)]

/-- Tifinagh consonants. -/
def tifinaghRanges : CodeRanges :=
  [(0x2D31, 0x2D65), (0x2D6F, 0x2D6F)]

/-- Lisu tone letters that begin a pair. -/
def lisuFirstRanges : CodeRanges := [(0xA4F8, 0xA4FB)]

/-- Lisu tone letters that end a pair. -/
def lisuLastRanges : CodeRanges := [(0xA4FC, 0xA4FD)]

/-- Quotation marks that have a wide form. -/
def quoteRanges : CodeRanges :=
  [(0x2018, 0x2019), (0x201C, 0x201D)]

namespace Context

/-- The context in front of a character that takes no part in a ligature with what is behind it. -/
def starting (c : Char) : Context :=
  if isPictureSelector c then { asPicture := true }
  else if isTextSelector c then { asText := true }
  else if isWideSelector c then { asWide := true }
  else if alefRanges.has c then { behind := .alef }
  else if c.toNat = 0x5DC then { behind := .lamed false }
  else if khmerRanges.has c then { behind := .khmer }
  else if c.toNat = 0x1A10 then { behind := .ya false }
  else if tifinaghRanges.has c then { behind := .tifinagh false }
  else if lisuLastRanges.has c then { behind := .lisuTone }
  else if c.toNat = 0x10C03 then { behind := .orkhon false }
  else if c.toNat = 0x16D67 then { behind := .kiratE }
  else if c.toNat = 0x16D68 then { behind := .kiratAi }
  else if isFlagLetter c then { behind := .flagLetter }
  else if isSkinTone c then { behind := .skinTone }
  else if isPicture c then { behind := .picture }
  else {}

end Context

/-- How many columns a character adds, and the context in front of it. -/
abbrev Placed := Int × Context

/-- A character that takes no part in a ligature with what is behind it. -/
def placeAlone (c : Char) : Placed :=
  (columnsOf c, .starting c)

/-- A character of ASCII or a control; a carriage return and a line feed are one. -/
def placePlain (behind : Behind) (c : Char) : Placed :=
  if c = '\n' then (1, { behind := .lineFeed })
  else if c = '\r' ∧ behind = .lineFeed then (0, {})
  else (1, {})

/-- A character in front of a part of a letter ligature, if the two belong together. -/
def joinLetters? (c : Char) : Behind → Option Placed
  | .alef =>
    if lamRanges.has c then some (0, {})
    else if isTransparent c then some (0, { behind := .alef })
    else none
  | .lamed true => if c.toNat = 0x5D0 then some (0, {}) else none
  | .khmer => if c.toNat = 0x17D2 then some (-1, {}) else none
  | .ya true => if c.toNat = 0x1A17 then some (0, { behind := .vowelYa }) else none
  | .vowelYa => if c.toNat = 0x1A15 then some (0, {}) else none
  | .tifinagh joined =>
    if c.toNat = 0x2D7F then some (1, { behind := .tifinaghPair })
    else if joined && tifinaghRanges.has c then some (0, {})
    else none
  | .tifinaghPair => if tifinaghRanges.has c then some (-1, {}) else none
  | .lisuTone => if lisuFirstRanges.has c then some (0, {}) else none
  | .orkhon true => if c.toNat = 0x10C32 then some (0, {}) else none
  | .kiratE =>
    if c.toNat = 0x16D63 ∨ c.toNat = 0x16D69 then some (0, {})
    else if c.toNat = 0x16D67 then some (0, { behind := .kiratAi })
    else if c.toNat = 0x16D68 then some (1, { behind := .kiratE })
    else none
  | .kiratAi => if c.toNat = 0x16D63 then some (0, {}) else none
  | _ => none

/-- A joiner in front of a part of an emoji. -/
def joinJoiner? (c : Char) : Option Placed :=
  if isZeroWidthJoiner c then some (0, { behind := .joiner false }) else none

/-- The flag that carries a tag. -/
def isTagBase (c : Char) : Bool := c.toNat = 0x1F3F4

/-- A character in front of the letters of a tag. A tag has three letters at least and six at
most, or up to two letters and three digits in front of them. -/
def joinTagLetters? (c : Char) (count : Nat) : Option Placed :=
  if isTagLetter c ∧ count < 6 then some (0, { behind := .tagLetters (count + 1) })
  else if isTagDigit c ∧ count < 5 then some (0, { behind := .tagDigits 1 })
  else if isTagBase c ∧ 3 ≤ count then some (0, { behind := .picture })
  else none

/-- A character in front of the digits of a tag. -/
def joinTagDigits? (c : Char) (count : Nat) : Option Placed :=
  if isTagDigit c ∧ count < 3 then some (0, { behind := .tagDigits (count + 1) })
  else if isTagBase c ∧ count = 3 then some (0, { behind := .picture })
  else none

/-- A character in front of a joiner and a picture. -/
def joinPicture? (c : Char) (keycap : Bool) : Option Placed :=
  if keycap then none
  else if c.toNat = 0x20E3 then some (0, { behind := .joiner true })
  else if isFlagLetter c then some (1, { behind := .joinedFlagLetter })
  else if isSkinTone c then some (0, { behind := .skinTone })
  else if c.toNat = 0xE007F then some (0, { behind := .tagLetters 0 })
  else if isPicture c then some (0, { behind := .picture })
  else none

/-- A character in front of a part of an emoji, if the two belong together. -/
def joinEmoji? (c : Char) : Behind → Option Placed
  | .skinTone => if hasSkin c then some (0, { behind := .picture }) else joinJoiner? c
  | .flagLetter => if isFlagLetter c then some (1, { behind := .flagLetters }) else none
  | .flagLetters => if isFlagLetter c then some (1, { behind := .flagLetters }) else joinJoiner? c
  | .picture => joinJoiner? c
  | .joiner keycap => joinPicture? c keycap
  | .joinedFlagLetter => if isFlagLetter c then some (-1, { behind := .joinedFlagsEven }) else none
  | .joinedFlagsEven =>
    if isFlagLetter c then some (3, { behind := .joinedFlagsOdd }) else joinJoiner? c
  | .joinedFlagsOdd =>
    if isFlagLetter c then some (-1, { behind := .joinedFlagsEven }) else joinJoiner? c
  | .tagLetters count => joinTagLetters? c count
  | .tagDigits count => joinTagDigits? c count
  | _ => none

namespace Context

/-- Puts a character that is no selector in front of a context without a request for a style. -/
def placeJoined (ctx : Context) (c : Char) : Placed :=
  if ctx.behind.isOpen ∧ isZeroWidthJoiner c then (0, { ctx with behind := ctx.behind.join })
  else if ctx.behind.isOpen ∧ ignorableMarks.has c then (0, ctx)
  else ((joinLetters? c ctx.behind).orElse fun _ => joinEmoji? c ctx.behind).getD (placeAlone c)

/-- Puts a character above ASCII in front of a context without a request for a picture. -/
def placeStyled (ctx : Context) (c : Char) : Placed :=
  if ctx = {} then placeAlone c
  else if isPictureSelector c then (0, ctx.askPicture)
  else if isTextSelector c then (0, ctx.askText)
  else if isWideSelector c then (0, ctx.askWide)
  else if ctx.asText ∧ isTextSelectable c then (1, {})
  else if ctx.dropText.asWide ∧ quoteRanges.has c then (2, {})
  else ctx.dropText.dropWide.placeJoined c

/-- Puts a character in front of a context. -/
def place (ctx : Context) (c : Char) : Placed :=
  if ctx.asPicture ∧ isPictureSelectable c then
    (if ctx.behind.isJoiner then 0 else 2, { behind := .picture })
  else if c.toNat ≤ 0xA0 then placePlain ctx.dropPicture.behind c
  else ctx.dropPicture.placeStyled c

end Context

end Chartboard.Text
