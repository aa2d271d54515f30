/-!
# Colours

A palette of eight colours for series and slices, and the three classes of points that are
coloured by their side of the mean.
-/

namespace Chartboard

/-- A colour as its red, green and blue parts, each below 256. -/
structure Rgb where
  /-- The red part. -/
  red : Nat
  /-- The green part. -/
  green : Nat
  /-- The blue part. -/
  blue : Nat
  deriving DecidableEq, Repr, Inhabited

namespace Rgb

/-- Two hexadecimal digits. -/
def hexByte (n : Nat) : List Char :=
  let digits := Nat.toDigits 16 n
  List.replicate (2 - digits.length) '0' ++ digits

/-- The colour as a number sign and six hexadecimal digits. -/
def hex (c : Rgb) : String :=
  String.ofList ('#' :: (hexByte c.red ++ hexByte c.green ++ hexByte c.blue))

/-- The colours of series and slices. -/
def palette : List Rgb :=
  [⟨100, 150, 250⟩, ⟨250, 150, 100⟩, ⟨150, 250, 100⟩, ⟨250, 100, 150⟩,
   ⟨150, 100, 250⟩, ⟨250, 250, 100⟩, ⟨100, 250, 250⟩, ⟨250, 100, 100⟩]

/-- The colour of a series or slice by its place; the palette starts again at its end. -/
def ofIndex (index : Nat) : Rgb :=
  palette.getD (index % palette.length) default

/-- There is a colour for every place. -/
theorem palette_ofIndex (index : Nat) :
    palette[index % palette.length]? = some (ofIndex index) := by
  have hlt : index % palette.length < palette.length := Nat.mod_lt index (by decide)
  rw [ofIndex, List.getD_eq_getElem?_getD, List.getElem?_eq_getElem hlt, Option.getD_some]

end Rgb

/-- The class of a point that is coloured by its side of the mean. -/
inductive ColorClass where
  /-- The value is not below the mean. -/
  | above
  /-- The value is below the mean. -/
  | below
  /-- There is no value. -/
  | neutral
  deriving DecidableEq, Repr, Inhabited

namespace ColorClass

/-- The written name of a class. -/
def name : ColorClass → String
  | above => "above"
  | below => "below"
  | neutral => "neutral"

/-- The colour of a class. -/
def color : ColorClass → Rgb
  | above => Rgb.ofIndex 2
  | below => Rgb.ofIndex 7
  | neutral => ⟨160, 160, 160⟩

end ColorClass

end Chartboard
