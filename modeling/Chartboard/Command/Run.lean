import Chartboard.Command.Arguments
import Chartboard.Dashboard.Session
import Chartboard.Data.Preview
import Chartboard.Text.Utf8
import Chartboard.Wire.Document
import Chartboard.Wire.Query
import Chartboard.Wire.Render
import Chartboard.Wire.View

/-!
# Commands

What the commands of the program do, as a function of the contents of the files. The result of a
command is one JSON value; a failure is a message with its causes.
-/

namespace Chartboard

open Json (Value)

/-- The contents of files by their paths. -/
abbrev Files := String → Except FileError (List UInt8)

/-- Why a command fails. -/
structure Failure where
  /-- What could not be done. -/
  summary : String
  /-- Why not, each cause explained by the next. -/
  causes : List String := []
  deriving DecidableEq, Repr

namespace Failure

/-- A cause behind its mark; further lines are indented as far. -/
def indented (mark indent cause : String) : String :=
  mark ++ ("\n" ++ indent).intercalate (cause.splitOn "\n")

/-- A number right in a field of five characters. -/
def mark (number : Nat) : String :=
  let digits := toString number
  ("".pushn ' ' (5 - digits.length)) ++ digits ++ ": "

/-- The causes, which have numbers if there are several. -/
def causeLines (causes : List String) : List String :=
  match causes with
  | [cause] => [indented "    " "    " cause]
  | causes => causes.zipIdx.map fun (cause, i) => indented (mark i) "       " cause

/-- The message for the user. -/
def report (f : Failure) : String :=
  let lines := ("Error: " ++ f.summary) ::
    (if f.causes.isEmpty then [] else "" :: "Caused by:" :: causeLines f.causes)
  "\n".intercalate lines ++ "\n"

end Failure

/-- Why a file was not loaded, from the outermost cause to the innermost. -/
def LoadError.causes (e : LoadError) : List String :=
  match e with
  | .io error => [e.message, error.message]
  | _ => [e.message]

/-- The options of a format, of which the delimiter has to be an ASCII character. -/
def FileFormat.options (format : FileFormat) : Except Failure CsvOptions :=
  if format.delimiter.toNat < 128 then
    .ok {
      delimiter := UInt8.ofNat format.delimiter.toNat
      hasHeader := format.hasHeader
      sampleSize := format.sampleSize }
  else .error { summary := "delimiter must be a single ASCII character" }

namespace Files

/-- Loads a file of separated values. -/
def source (files : Files) (path : String) (format : FileFormat) : Except Failure Source := do
  let options ← format.options
  let loaded := match files path with
    | .ok bytes => Source.load options path bytes
    | .error e => .error (.io e)
  loaded.mapError fun e => { summary := "failed to load " ++ path, causes := e.causes }

/-- The text of a file. -/
def text (files : Files) (path : String) : Except FileError String := do
  match Text.decode (← files path) with
  | .ok text => pure text
  | .error _ => throw .notText

/-- Reads a dashboard. -/
def dashboard (files : Files) (path : String) : Except Failure Document := do
  let text ← (files.text path).mapError fun e =>
    { summary := "failed to read " ++ path, causes := [e.message] }
  (Document.ofText text).mapError fun e =>
    { summary := "invalid dashboard " ++ path, causes := [e.message] }

end Files

/-- What a command has to say. -/
structure Report where
  /-- The result. -/
  result : Value
  /-- Lines for the user that are not part of the result. -/
  remarks : List String := []
  deriving Inhabited

/-! ## Profiles -/

/-- What a profile says of a column. The statistics are those of the name of the column. -/
def Source.columnProfile (s : Source) (column : ColumnInfo) : Value :=
  let stats := s.schema.statsByName.get? column.name
  let count (n : Option Nat) : Value :=
    match n with
    | some n => Value.int n
    | none => .null
  .object
    [("name", .string column.name),
     ("dtype", .string column.dtype.name),
     ("null_count", count (stats.map (·.nullCount))),
     ("distinct_count", count (stats.map (·.distinctCount)))]

/-- The profile of a file. -/
def Source.profile (s : Source) (preview : Option Nat) : Report where
  result := .object
    [("source", .string s.name),
     ("rows", Value.int s.table.records.length),
     ("columns", .array (s.table.catalog.columns.map s.columnProfile))]
  remarks :=
    match preview with
    | some count => s.table.preview count
    | none => []

/-! ## Queries -/

/-- The query of a chart, or why it has none. -/
def Spec.queryReport (s : Spec) (catalog : Catalog) (filters : FilterSet) (index : Nat) : Value :=
  let request := do
    s.validate catalog
    s.compile {} filters
  match request with
  | .ok request => .object [("chart", Value.int index), ("request", request.toJson)]
  | .error e =>
    .object [("chart", Value.int index), ("error", .string e.message),
      ("field", .string e.field.name)]

/-- The queries of a dashboard. -/
def Document.queryReport (d : Document) (catalog : Catalog) : Report where
  result := .object
    [("dashboard", .string d.name),
     ("charts", .array (d.charts.zipIdx.map fun (s, i) => s.queryReport catalog d.filters i))]

/-! ## Drawn charts -/

/-- The words in place of a chart that is not drawn. -/
def RenderModel.placeholder? : RenderModel → Option String
  | .empty m => some m.placeholder
  | _ => none

/-- What is drawn for a chart, or why nothing is. -/
def ChartView.report (v : ChartView) (index : Nat) : Value :=
  .object
    ([("chart", Value.int index),
      ("chart_kind", v.spec.kind.toJson),
      ("state", .string v.phase.name)]
      ++ Value.optionalMember "placeholder" ((v.render.bind (·.placeholder?)).map .string)
      ++ Value.optionalMember "render" (v.render.map RenderModel.toJson)
      ++ Value.optionalMember "error" (v.fault.map ChartFault.toJson))

/-- What is drawn for a dashboard. -/
def Session.report (s : Session) : Report where
  result := .object
    [("dashboard", .string s.name),
     ("filters", s.shared.filters.toJson),
     ("charts", .array (s.charts.entries.zipIdx.map fun ((_, v), i) => v.report i))]

/-- A point to select: the index of a chart and a value. -/
structure PointChoice where
  /-- The index of the chart. -/
  chart : Nat
  /-- The value. -/
  value : String
  deriving DecidableEq, Repr

/-- Reads a point to select: an index and a value with an equals sign between them. -/
def PointChoice.ofText (text : String) : Except Failure PointChoice :=
  match Argument.splitValue text.toList with
  | (_, none) => .error { summary := "--select expects CHART_INDEX=VALUE" }
  | (index, some value) =>
    match Text.natural Text.countBound (Text.trim index) with
    | .ok chart => .ok ⟨chart, Text.trim value⟩
    | .error fault =>
      .error { summary := "chart index must be a number", causes := [fault.message] }

namespace Session

/-- What a call leaves, unless it is refused. -/
def settled {α : Type} (turn : Turn Session α) : Except Failure Session :=
  match turn.answer with
  | .ok _ => .ok turn.state
  | .error refusal => .error { summary := refusal.message }

/-- Selects a point of the chart that has an index. -/
def choose (s : Session) (choice : PointChoice) : Except Failure Session :=
  match s.charts.keys[choice.chart]? with
  | some id => settled (s.selectPoint id (.string choice.value))
  | none => .error { summary := "dashboard has no chart " ++ toString choice.chart }

/-- The session after the point of a choice has been selected, if there is one. -/
def chooseText (s : Session) : Option String → Except Failure Session
  | some text => do s.choose (← PointChoice.ofText text)
  | none => .ok s

end Session

/-! ## Outcomes -/

namespace Command

/-- The paths of the files that a command reads. -/
def paths : Command → List String
  | profile csv _ _ => [csv]
  | compile dashboard csv _ => dashboard :: csv.toList
  | render csv dashboard _ _ => [csv, dashboard]

/-- Carries out a command. -/
def run (files : Files) : Command → Except Failure Report
  | profile csv format preview => do
    pure ((← files.source csv format).profile preview)
  | compile dashboard csv format => do
    let document ← files.dashboard dashboard
    let catalog ← match csv with
      | some path => do pure (← files.source path format).table.catalog
      | none => pure {}
    pure (document.queryReport catalog)
  | render csv dashboard selection format => do
    let source ← files.source csv format
    let document ← files.dashboard dashboard
    let opened ← Session.settled (Session.ofDocument Uuid.ofNat document source.table.catalog)
    let chosen ← opened.chooseText selection
    let drawn ← Session.settled (chosen.refreshAll source.table.executor ()).1
    pure drawn.report

end Command

/-- What the program leaves. -/
structure Outcome where
  /-- The exit code. -/
  code : UInt32
  /-- What is printed. -/
  output : String := ""
  /-- What is printed as an error. -/
  errors : String := ""
  deriving DecidableEq, Repr

/-- Lines as a text. -/
def linesText (lines : List String) : String :=
  lines.foldl (fun text line => text ++ line ++ "\n") ""

namespace Outcome

/-- How the program is called. -/
def usage : String :=
  linesText
    ["Usage: chartbuilder [--pretty] <COMMAND>",
     "",
     "Commands:",
     "  profile <CSV> [--preview N]",
     "  compile --dashboard FILE [--csv FILE]",
     "  render <CSV> --dashboard FILE [--select INDEX=VALUE]",
     "",
     "Files of separated values:",
     "  --delimiter CHAR  --no-header  --sample-size N"]

/-- The version of the program. -/
def version : String :=
  linesText ["chartbuilder 0.1.0"]

/-- The outcome of a command line that is not carried out. -/
def ofHalt : Halt → Outcome
  | .help => { code := 0, output := usage }
  | .version => { code := 0, output := version }
  | .misuse => { code := 2, errors := usage }

/-- The outcome of a command. -/
def ofResult (pretty : Bool) : Except Failure Report → Outcome
  | .ok report =>
    let result := report.result.canonical
    { code := 0
      output := linesText [if pretty then result.pretty else result.compress]
      errors := linesText report.remarks }
  | .error failure => { code := 1, errors := failure.report }

end Outcome

/-- What the program does with a command line. -/
def runArguments (files : Files) (arguments : List String) : Outcome :=
  match Invocation.ofArguments false arguments with
  | .ok invocation => .ofResult invocation.pretty (invocation.command.run files)
  | .error halt => .ofHalt halt

end Chartboard
