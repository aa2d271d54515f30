import Chartboard.Text.Ligature

/-!
# Display widths

The width of a text is the number of columns that it takes on a terminal.
-/

namespace Chartboard.Text

/-- The columns of some characters, and the context in front of them. -/
def measure (cs : List Char) : Placed :=
  cs.foldr (fun c (columns, ctx) =>
    let (more, ctx) := ctx.place c
    (columns + more, ctx)) (0, {})

/-- The number of columns that a text takes. -/
def width (s : String) : Nat :=
  (measure s.toList).1.toNat

end Chartboard.Text
