import Chartboard.Data.Csv
import Chartboard.Data.Detect

/-!
# Loaded files

A file of separated values becomes a table: its headers name the columns, and the types of the
columns are detected from the first rows.
-/

namespace Chartboard

/-- How a file of separated values is read. -/
structure CsvOptions where
  /-- The byte between two fields. -/
  delimiter : UInt8 := 0x2C
  /-- The first record names the columns. -/
  hasHeader : Bool := true
  /-- The number of rows from which types are detected. -/
  sampleSize : Nat := DetectedSchema.defaultSampleSize
  deriving DecidableEq, Repr, Inhabited

/-- Why a file cannot be opened or read. -/
inductive FileError where
  /-- There is no such file. -/
  | notFound
  /-- It is a directory. -/
  | isDirectory
  /-- The path leads through a file that is no directory. -/
  | notDirectory
  /-- It may not be read. -/
  | denied
  /-- Its name or its path is longer than the system allows. -/
  | nameTooLong
  /-- It holds bytes that are no text. -/
  | notText
  /-- The system refuses for a reason of its own. -/
  | system (text : String)
  deriving DecidableEq, Repr

/-- The message for the user. -/
def FileError.message : FileError → String
  | notFound => "No such file or directory (os error 2)"
  | isDirectory => "Is a directory (os error 21)"
  | notDirectory => "Not a directory (os error 20)"
  | denied => "Permission denied (os error 13)"
  | nameTooLong => "File name too long (os error 36)"
  | notText => "stream did not contain valid UTF-8"
  | system text => text

/-- Why a file of separated values cannot be loaded. -/
inductive LoadError where
  /-- The file cannot be read. -/
  | io (error : FileError)
  /-- The file is not as it should be. -/
  | csv (error : Csv.ReadError)
  /-- There are neither headers nor rows. -/
  | noColumns (path : String)
  deriving DecidableEq, Repr

/-- The message for the user. -/
def LoadError.message : LoadError → String
  | io error => s!"I/O error: {error.message}"
  | csv error => s!"CSV parsing error: {error.message}"
  | noColumns path => s!"Schema detection error: {path} has no columns"

/-- A loaded file. -/
structure Source where
  /-- The name of the file. -/
  name : String
  /-- What was detected about the columns. -/
  schema : DetectedSchema
  /-- The rows. -/
  table : Table
  deriving Inhabited

namespace Source

/-- The last part of a path. -/
def fileName (path : String) : String :=
  match ((path.splitOn "/").filter fun part => part ≠ "" ∧ part ≠ ".").getLast? with
  | some ".." | none => "unknown.csv"
  | some name => name

/-- The names of so many columns that have none. -/
def numberedColumns (width : Nat) : List String :=
  (List.range width).map fun i => s!"column_{i + 1}"

/-- The headers and the rows among the records of a file. Without headers the columns are numbered,
as many as the first row has. -/
def splitHeader (hasHeader : Bool) (records : List (List String)) :
    List String × List (List String) :=
  let (headers, rows) := match hasHeader, records with
    | true, header :: rows => (header.map Text.trim, rows)
    | _, rows => ([], rows)
  if headers.isEmpty then (numberedColumns (rows.headD []).length, rows) else (headers, rows)

/-- Loads the content of a file. -/
def load (options : CsvOptions) (path : String) (bytes : List UInt8) :
    Except LoadError Source := do
  let records ← (Csv.read options.delimiter bytes).mapError .csv
  let (headers, rows) := splitHeader options.hasHeader records
  if headers.isEmpty then throw (.noColumns path)
  let schema := DetectedSchema.ofRows options.sampleSize headers rows
  pure ⟨fileName path, schema, schema.load rows⟩

/-- How many cells of each column are null. -/
def nullCounts (s : Source) : List Nat :=
  s.table.columns.zipIdx.map fun (_, i) =>
    (s.table.records.filter fun r => match r.getD i .null with
      | .null => true
      | _ => false).length

end Source

end Chartboard
