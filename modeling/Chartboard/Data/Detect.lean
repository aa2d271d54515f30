import Chartboard.Data.Table
import Chartboard.Decimal.Text
import Chartboard.Ledger
import Chartboard.Text.Blank
import Chartboard.Time.Layout

/-!
# Detected types

The type of a column of texts is the first one that accepts every text of a sample: truth values,
integers, doubles, dates and times, and failing these plain text. Blank and missing cells are
nulls and say nothing about the type.
-/

namespace Chartboard

/-- The type of a column of texts. -/
inductive DetectedType where
  /-- Truth values. -/
  | bool
  /-- Integers of 64 bits. -/
  | int
  /-- Doubles. -/
  | float
  /-- Dates, with or without a time. -/
  | datetime
  /-- Any texts. -/
  | text
  deriving DecidableEq, Repr, Inhabited

/-- The truth value that a text is, in any case. -/
def boolOfText? (text : String) : Option Bool :=
  match String.ofList (text.toList.map Char.toLower) with
  | "true" => some true
  | "false" => some false
  | _ => none

namespace DetectedType

/-- The value of a text of the type. -/
def parse? (type : DetectedType) (s : String) : Option Cell :=
  match type with
  | bool => (boolOfText? s).map .bool
  | int => (Double.int64OfText? s).map .int
  | float => (Double.ofText? s).map .float
  | datetime => (millisOfText? s).map .int
  | text => some (.text s)

/-- The type accepts a text. -/
def accepts (type : DetectedType) (s : String) : Bool :=
  (type.parse? s).isSome

/-- How values of the type are stored. -/
def storage : DetectedType → StorageType
  | bool => .bool
  | int => .int 64
  | float => .float 64
  | datetime => .ticks .millisecond
  | text => .text

/-- The types that are tried before plain text, in order. -/
def candidates : List DetectedType := [bool, int, float, datetime]

end DetectedType

/-- What a sample says about a column. -/
structure ColumnStats where
  /-- How many cells are blank or missing. -/
  nullCount : Nat
  /-- How many different texts there are. -/
  distinctCount : Nat
  /-- The first text in the order of code points. -/
  least : Option String
  /-- The last text in the order of code points. -/
  greatest : Option String
  deriving DecidableEq, Repr, Inhabited

/-- The text of a cell without the blanks around it; none if the cell is blank or missing. -/
def cellText? (row : List String) (index : Nat) : Option String :=
  (row[index]?.map Text.trim).filter (· ≠ "")

namespace ColumnStats

/-- The lesser of a text and those before it. -/
def lesser (a : Option String) (b : String) : Option String :=
  match a with
  | some a => some (if b < a then b else a)
  | none => some b

/-- The greater of a text and those before it. -/
def greater (a : Option String) (b : String) : Option String :=
  match a with
  | some a => some (if a < b then b else a)
  | none => some b

end ColumnStats

/-- What has been seen of the cells of a column. -/
structure ColumnScan where
  /-- How many cells have been blank or missing. -/
  nulls : Nat := 0
  /-- The texts of the other cells. -/
  texts : List String := []
  /-- The types that have accepted every text, in the order in which they are tried. -/
  accepting : List DetectedType := DetectedType.candidates
  deriving DecidableEq, Repr, Inhabited

namespace ColumnScan

/-- Looks at one more cell. -/
def push (scan : ColumnScan) : Option String → ColumnScan
  | none => { scan with nulls := scan.nulls + 1 }
  | some text =>
    { scan with
      texts := scan.texts ++ [text]
      accepting := scan.accepting.filter (·.accepts text) }

/-- Looks at some cells in order. -/
def ofCells (cells : List (Option String)) : ColumnScan :=
  cells.foldl push {}

/-- The type that comes first among those that have accepted every text. A column without texts is
plain text. -/
def type (scan : ColumnScan) : DetectedType :=
  if scan.texts.isEmpty then .text else scan.accepting.head?.getD .text

/-- The numbers about the column. -/
def stats (scan : ColumnScan) : ColumnStats where
  nullCount := scan.nulls
  distinctCount := scan.texts.eraseDups.length
  least := scan.texts.foldl ColumnStats.lesser none
  greatest := scan.texts.foldl ColumnStats.greater none

end ColumnScan

/-- A column of texts with its detected type and its numbers. -/
structure DetectedColumn where
  /-- The name of the column. -/
  name : String
  /-- The type of its texts. -/
  type : DetectedType
  /-- What the sample says about it. -/
  stats : ColumnStats
  deriving DecidableEq, Repr, Inhabited

/-- The columns of a data set of texts. -/
structure DetectedSchema where
  /-- The columns in order. -/
  columns : List DetectedColumn
  deriving DecidableEq, Repr, Inhabited

namespace DetectedSchema

/-- The default number of rows that are looked at. -/
def defaultSampleSize : Nat := 1000

/-- The number of rows that are looked at, which is never zero. -/
def effectiveSampleSize (sampleSize : Nat) : Nat := max 1 sampleSize

/-- Detects the columns of some rows of texts from the first rows. -/
def ofRows (sampleSize : Nat) (headers : List String) (rows : List (List String)) :
    DetectedSchema :=
  let sample := rows.take (effectiveSampleSize sampleSize)
  ⟨headers.zipIdx.map fun (name, index) =>
    let scan := ColumnScan.ofCells (sample.map fun row => cellText? row index)
    ⟨name, scan.type, scan.stats⟩⟩

/-- The catalog of the columns. -/
def catalog (s : DetectedSchema) : Catalog :=
  ⟨s.columns.map fun c => ⟨c.name, c.type.storage.dtype⟩⟩

/-- The numbers about the columns by name. Of columns that share a name the first has the place
and the last the numbers. -/
def statsByName (s : DetectedSchema) : Ledger String ColumnStats :=
  Ledger.ofList (s.columns.map fun c => (c.name, c.stats))

/-- The cell of a text in a column; what the type does not accept is null. -/
def loadCell (type : DetectedType) (text : Option String) : Cell :=
  (text.bind type.parse?).getD .null

/-- All rows as a table of the detected types. -/
def load (s : DetectedSchema) (rows : List (List String)) : Table where
  columns := s.columns.map fun c => ⟨c.name, c.type.storage⟩
  records := rows.map fun row =>
    s.columns.zipIdx.map fun (c, index) => loadCell c.type (cellText? row index)

end DetectedSchema

end Chartboard
