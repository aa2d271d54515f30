/-!
# Column catalogs

A catalog lists the columns of a data set with their logical types. Where two columns share a name
the first one stands for it.
-/

namespace Chartboard

/-- The logical type of a column. -/
inductive DType where
  /-- Whole numbers. -/
  | int64
  /-- Doubles. -/
  | float64
  /-- Texts. -/
  | string
  /-- Dates and times. -/
  | datetime
  /-- Truth values. -/
  | bool
  /-- Texts from a fixed set. -/
  | category
  /-- Anything else. -/
  | other
  deriving DecidableEq, Repr, Inhabited

namespace DType

/-- All logical types. -/
def all : List DType := [int64, float64, string, datetime, bool, category, other]

/-- The written name of a type. -/
def name : DType → String
  | int64 => "int64"
  | float64 => "float64"
  | string => "string"
  | datetime => "datetime"
  | bool => "bool"
  | category => "category"
  | other => "other"

/-- The type with a given name; an unknown name stands for another type than the known ones. -/
def ofName (name : String) : DType :=
  (all.find? fun d => d.name == name).getD other

/-- Values of the type can be added up. -/
def isNumeric : DType → Bool
  | int64 | float64 => true
  | _ => false

end DType

/-- A column of a data set. -/
structure ColumnInfo where
  /-- The name of the column. -/
  name : String
  /-- The logical type of its values. -/
  dtype : DType
  deriving DecidableEq, Repr, Inhabited

/-- The columns of a data set in order. -/
structure Catalog where
  /-- The columns. -/
  columns : List ColumnInfo := []
  deriving DecidableEq, Repr, Inhabited

namespace Catalog

/-- The first column of a name. -/
def get? (c : Catalog) (name : String) : Option ColumnInfo :=
  c.columns.find? (·.name == name)

/-- The logical type of the first column of a name. -/
def dtypeOf (c : Catalog) (name : String) : Option DType :=
  (c.get? name).map (·.dtype)

/-- Some column has the name. -/
def contains (c : Catalog) (name : String) : Bool :=
  (c.get? name).isSome

/-- The names of the columns in order. -/
def names (c : Catalog) : List String :=
  c.columns.map (·.name)

/-- The number of columns. -/
def size (c : Catalog) : Nat :=
  c.columns.length

/-- Nothing is known about the data set yet. -/
def isEmpty (c : Catalog) : Bool :=
  c.columns.isEmpty

end Catalog

end Chartboard
