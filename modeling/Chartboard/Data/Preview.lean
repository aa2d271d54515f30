import Chartboard.Data.Table
import Chartboard.Text.Width

/-!
# Previews

A preview shows the first rows of a table in a frame of plain characters. Every column is as wide
as its widest line.
-/

namespace Chartboard

/-- Doubles in a preview have no sign in front of a positive exponent. -/
def previewFloatStyle : FloatStyle where
  signedExponent := false

/-- The text of a double in a preview. -/
def previewFloat (x : Float) : String :=
  if x.isFinite then previewFloatStyle.render x
  else if x.isNaN then "NaN"
  else if Double.isNegative x then "-inf"
  else "inf"

/-- The text of a cell in a preview; null is empty. -/
def StorageType.preview (type : StorageType) : Cell → String
  | .null => ""
  | .float x => previewFloat x
  | cell =>
    match type.read cell with
    | .string s => s
    | v => v.compress

/-- The lines of the cells of one row. -/
abbrev GridRow := List (List String)

namespace GridRow

/-- A row of some texts, which may have several lines. -/
def ofTexts (texts : List String) : GridRow :=
  texts.map fun text => text.splitOn "\n"

/-- The number of columns of the terminal that each cell takes. -/
def widths (row : GridRow) : List Nat :=
  row.map fun lines => (lines.map Text.width).foldl max 0

/-- A line of a cell with blanks up to a width. -/
def pad (width : Nat) (line : String) : String :=
  line.pushn ' ' (width - Text.width line)

/-- The lines of the row between vertical bars. -/
def render (widths : List Nat) (row : GridRow) : List String :=
  let height := (row.map List.length).foldl max 0
  (List.range height).map fun i =>
    (row.zip widths).foldl (fun text (lines, width) =>
      text ++ " " ++ pad width (lines.getD i "") ++ " |") "|"

end GridRow

/-- The line between two parts of a frame. -/
def frameLine (widths : List Nat) : String :=
  widths.foldl (fun text width => text.pushn '-' (width + 2) ++ "+") "+"

namespace Table

/-- The texts of a row. -/
def previewRow (t : Table) (record : Record) : GridRow :=
  .ofTexts (t.columns.zipIdx.map fun (c, i) => c.type.preview (record.getD i .null))

/-- The lines of a preview of the first rows. -/
def preview (t : Table) (count : Nat) : List String :=
  let header := GridRow.ofTexts t.names
  let rows := (t.records.take count).map t.previewRow
  let widths := rows.foldl (fun widths row => List.zipWith max widths row.widths)
    (header.widths.map (max 1))
  let line := frameLine widths
  line :: header.render widths ++ line :: rows.flatMap (GridRow.render widths) ++ [line]

end Table

end Chartboard
