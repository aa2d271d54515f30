import Chartboard.Chart.Catalog
import Chartboard.Json.Printer
import Chartboard.Time.Calendar

/-!
# Tables

A table has typed columns and rows of cells. Queries read every cell as a JSON value; the storage
type of its column says how. The logical types of the columns make up the catalog of the table.
-/

namespace Chartboard

open Json (Value)

/-- What a count of time counts. -/
inductive TickUnit where
  /-- Seconds. -/
  | second
  /-- Thousandths of a second. -/
  | millisecond
  deriving DecidableEq, Repr, Inhabited

namespace TickUnit

/-- The length of a tick in milliseconds. -/
def millis : TickUnit → Int
  | second => 1000
  | millisecond => 1

/-- The name of the unit. -/
def name : TickUnit → String
  | second => "Second"
  | millisecond => "Millisecond"

end TickUnit

/-- How the values of a column are stored. -/
inductive StorageType where
  /-- Truth values. -/
  | bool
  /-- Signed integers of so many bits. -/
  | int (bits : Nat)
  /-- Natural numbers of so many bits. -/
  | nat (bits : Nat)
  /-- Floating point numbers of so many bits. -/
  | float (bits : Nat)
  /-- Texts. -/
  | text
  /-- Texts of a column that may be larger than two gigabytes. -/
  | largeText
  /-- Texts that are stored once each. -/
  | category
  /-- Days since the start of 1970. -/
  | days
  /-- Ticks of a unit since the start of 1970. -/
  | ticks (unit : TickUnit)
  /-- Anything else. -/
  | other
  deriving DecidableEq, Repr, Inhabited

/-- The logical type of a stored column. -/
def StorageType.dtype : StorageType → DType
  | bool => .bool
  | int _ | nat _ => .int64
  | float _ => .float64
  | text | largeText => .string
  | category => .category
  | days | ticks _ => .datetime
  | other => .other

/-- A stored value. -/
inductive Cell where
  /-- There is no value. -/
  | null
  /-- A truth value. -/
  | bool (b : Bool)
  /-- An integer, or a count of days or ticks. -/
  | int (i : Int)
  /-- A floating point number, widened to a double. -/
  | float (x : Float)
  /-- A text. -/
  | text (s : String)
  deriving Inhabited, Repr

/-- A double rounded to single precision. -/
def Cell.single (x : Float) : Cell :=
  .float x.toFloat32.toFloat

/-- The text of a count of days. One that is out of the range of dates reads as the complaint
about it. -/
def StorageType.dayText (days : Int) : String :=
  (Date.textOfDays? days).getD
    s!"ERROR: Cast error: Failed to convert {days} to temporal for Date32"

/-- The text of a count of ticks. One that is out of the range of dates reads as the complaint
about it. -/
def StorageType.tickText (unit : TickUnit) (ticks : Int) : String :=
  (Date.textOfMillis? (ticks * unit.millis)).getD
    s!"ERROR: Cast error: Failed to convert {ticks} to datetime for Timestamp({unit.name}, None)"

/-- The value that queries see in a cell. Integers of 32 and 64 bits are numbers; narrower ones are
read by their text, as are dates and times. Doubles that are not finite have no value. -/
def StorageType.read (type : StorageType) : Cell → Value
  | .null => .null
  | .bool b => .bool b
  | .float x => .ofFloat x
  | .text s => .string s
  | .int i =>
    match type with
    | int bits | nat bits => if bits < 32 then .string (toString i) else .int i
    | days => .string (dayText i)
    | ticks unit => .string (tickText unit i)
    | _ => .int i

/-- A named and typed column. -/
structure Column where
  /-- The name of the column. -/
  name : String
  /-- How its values are stored. -/
  type : StorageType
  deriving DecidableEq, Repr, Inhabited

/-- The cells of one row in the order of the columns. -/
abbrev Record := List Cell

/-- A data set in memory. -/
structure Table where
  /-- The columns in order. -/
  columns : List Column := []
  /-- The rows in order. -/
  records : List Record := []
  deriving Inhabited

/-- A column together with its place in the rows. -/
structure ColumnRef where
  /-- The number of columns in front of it. -/
  index : Nat
  /-- How its values are stored. -/
  type : StorageType
  deriving DecidableEq, Repr, Inhabited

/-- The value of a column in a row. -/
def ColumnRef.read (ref : ColumnRef) (record : Record) : Value :=
  ref.type.read (record.getD ref.index .null)

namespace Table

/-- The names of the columns in order. -/
def names (t : Table) : List String :=
  t.columns.map (·.name)

/-- The columns with their places. -/
def refs (t : Table) : List (String × ColumnRef) :=
  t.columns.zipIdx.map fun (c, i) => (c.name, ⟨i, c.type⟩)

/-- The first column of a name. -/
def column? (t : Table) (name : String) : Option ColumnRef :=
  t.refs.lookup name

/-- The catalog of a table. -/
def catalog (t : Table) : Catalog :=
  ⟨t.columns.map fun c => ⟨c.name, c.type.dtype⟩⟩

end Table

end Chartboard
