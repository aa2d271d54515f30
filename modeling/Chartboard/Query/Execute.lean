import Chartboard.Data.Table
import Chartboard.Query.Accumulator
import Chartboard.Query.Request
import Chartboard.StableSort.Runs

/-!
# Executed queries

A request is answered from a table in memory: rows are selected by the filters, then binned,
grouped, aggregated as a whole or taken as they are, and the result is sorted and cut to the limit.
-/

namespace Chartboard

open Json (Value)

/-- Why a request has no answer. -/
inductive QueryError where
  /-- The executor failed for a reason of its own. -/
  | failure (text : String)
  /-- The table has no column of this name. -/
  | unknownColumn (name : String)
  /-- A column that is to be binned holds something that is no number. -/
  | notNumeric (column : String)
  /-- The executor did not come to an end. -/
  | task (text : String)
  deriving DecidableEq, Repr, Inhabited

/-- The message for the user. -/
def QueryError.message : QueryError → String
  | failure text => s!"query failed: {text}"
  | unknownColumn name => s!"unknown column '{name}'"
  | notNumeric column => s!"column '{column}' is not numeric and cannot be binned"
  | task text => s!"executor task failed: {text}"

namespace Double

/-- The greatest natural number that is not above a double; zero for what is negative or not a
number. -/
def floorNat (x : Float) : Nat :=
  if x.isNaN || isNegative x then 0 else (Binary.ofFloat x).floor

end Double

/-- The failure of a request whose rows cannot be sorted. The text begins with the number of the
task of the executor, which is left out here. -/
def QueryError.unsortable : QueryError :=
  .task ("panicked with message " ++
    "\"user-provided comparison function does not correctly implement a total order\"")

/-- The equal bins of a range of numbers. -/
structure Binning where
  /-- The lower edge of the first bin. -/
  start : Float
  /-- The width of every bin. -/
  width : Float
  /-- The number of bins, which is not zero. -/
  count : Nat

namespace Binning

/-- Bins from the least to the greatest of some numbers. If there is no range between them a bin is
one wide. -/
def ofValues (count : Nat) (values : List Float) : Binning :=
  let least := values.foldl Double.least Double.infinity
  let greatest := values.foldl Double.greatest (-Double.infinity)
  { start := least
    width := if least < greatest then (greatest - least) / Float.ofNat count else 1.0
    count }

/-- The bin of a number; what is above the last edge is in the last bin. -/
def index (b : Binning) (value : Float) : Nat :=
  min (Double.floorNat ((value - b.start) / b.width)) (b.count - 1)

/-- Counts one more number in its bin. -/
def tally (b : Binning) (counts : List Nat) (value : Float) : List Nat :=
  counts.modify (b.index value) (· + 1)

/-- How many of some numbers are in each bin. -/
def frequencies (b : Binning) (values : List Float) : List Nat :=
  values.foldl b.tally (List.replicate b.count 0)

/-- The row of a bin: its middle under the name of the column, its edges and its frequency. -/
def row (b : Binning) (column : String) (index frequency : Nat) : Row :=
  let start := b.start + Float.ofNat index * b.width
  Ledger.ofList
    [(column, .ofFloat (start + b.width / 2.0)),
     (binStartKey, .ofFloat start),
     (binEndKey, .ofFloat (start + b.width)),
     (histogramCountKey column, .int frequency)]

end Binning

/-- Rows with the names of their columns. -/
structure ResultSet where
  /-- The names of the columns. -/
  columns : List String
  /-- The rows. -/
  rows : List Row

namespace Table

/-- The first column of a name, which has to be there. -/
def column (t : Table) (name : String) : Except QueryError ColumnRef :=
  match t.column? name with
  | some ref => .ok ref
  | none => .error (.unknownColumn name)

/-- The columns of some filters with the values they must have. -/
def filterColumns (t : Table) (filters : List Filter) :
    Except QueryError (List (ColumnRef × Value)) :=
  filters.mapM fun f => do pure (← t.column f.column, f.value)

/-- The row agrees with every filter. -/
def passes (filters : List (ColumnRef × Value)) (record : Record) : Bool :=
  filters.all fun (ref, expected) => (ref.read record).matchesFilter expected

/-- The default number of bins. -/
def defaultBins : Nat := 10

/-- The numbers of a column that are not null. -/
def numbers (column : String) (ref : ColumnRef) (records : List Record) :
    Except QueryError (List Float) :=
  ((records.map ref.read).filter fun v => !v.isNull).mapM fun v =>
    match v.asNumber? with
    | some x => .ok x
    | none => .error (.notNumeric column)

/-- The bins of the first aggregate's column. -/
def histogram (t : Table) (request : Request) (selected : List Record) :
    Except QueryError ResultSet := do
  match request.aggregates with
  | [] => throw (.failure "histogram request has no value column")
  | aggregate :: _ =>
    let column := aggregate.column
    let ref ← t.column column
    let columns := [column, binStartKey, binEndKey, histogramCountKey column]
    let values ← numbers column ref selected
    if values.isEmpty then pure ⟨columns, []⟩
    else
      let binning := Binning.ofValues (max 1 (request.bins.getD defaultBins)) values
      pure ⟨columns, (binning.frequencies values).zipIdx.map fun (n, i) =>
        binning.row column i n⟩

/-- The columns of the aggregates of a request. -/
def measures (t : Table) (request : Request) : Except QueryError (List (ColumnRef × Aggregate)) :=
  request.aggregates.mapM fun a => do pure (← t.column a.column, a)

/-- A group of rows with equal keys. -/
structure Group where
  /-- The values of the grouping columns. -/
  keys : List Value
  /-- What has been taken from the rows, an accumulator for each aggregate. -/
  accumulators : List Accumulator

/-- Takes one more row into a group. -/
def Group.push (g : Group) (measures : List (ColumnRef × Aggregate)) (record : Record) : Group :=
  { g with accumulators := (g.accumulators.zip measures).map fun (acc, ref, _) =>
      acc.push (ref.read record) }

/-- The text by which groups are told apart. -/
def groupText (keys : List Value) : String :=
  (Value.array keys).compress

/-- Takes one more row into its group, which is opened by its first row. -/
def pushRecord (keyRefs : List ColumnRef) (measures : List (ColumnRef × Aggregate))
    (groups : Ledger String Group) (record : Record) : Ledger String Group :=
  let keys := keyRefs.map fun ref => ref.read record
  let text := groupText keys
  let group := (groups.get? text).getD ⟨keys, measures.map fun _ => {}⟩
  groups.insert text (group.push measures record)

/-- The result row of a group: its keys under the names of the grouping columns, and then its
aggregates. -/
def Group.row (g : Group) (groupBy : List String) (measures : List (ColumnRef × Aggregate)) : Row :=
  Ledger.ofList (groupBy.zip g.keys ++
    (g.accumulators.zip measures).map fun (acc, _, a) => (a.key, acc.finish a.function))

/-- One row for each group, in the order in which the groups first came. -/
def grouped (t : Table) (request : Request) (selected : List Record) :
    Except QueryError ResultSet := do
  let keyRefs ← request.groupBy.mapM t.column
  let measures ← t.measures request
  let groups := selected.foldl (pushRecord keyRefs measures) ∅
  pure ⟨request.groupBy ++ measures.map (·.2.key),
    groups.entries.map fun (_, g) => g.row request.groupBy measures⟩

/-- One row for all rows together; none if there are none. -/
def overall (t : Table) (request : Request) (selected : List Record) :
    Except QueryError ResultSet := do
  let measures ← t.measures request
  let row := Ledger.ofList (measures.map fun (ref, a) =>
    (a.key, (Accumulator.ofValues (selected.map ref.read)).finish a.function))
  pure ⟨measures.map (·.2.key), if selected.isEmpty then [] else [row]⟩

/-- The rows as they are. -/
def plain (t : Table) (selected : List Record) : ResultSet :=
  ⟨t.names, selected.map fun record =>
    Ledger.ofList (t.refs.map fun (name, ref) => (name, ref.read record))⟩

/-- The result of a request before it is sorted and cut. -/
def result (t : Table) (request : Request) : Except QueryError ResultSet := do
  let filters ← t.filterColumns request.filters
  let selected := t.records.filter (passes filters)
  if request.isHistogram then t.histogram request selected
  else if !request.groupBy.isEmpty then t.grouped request selected
  else if !request.aggregates.isEmpty then t.overall request selected
  else pure (t.plain selected)

end Table

/-! ## Order -/

/-- The order of two cells of result rows by their standings. Null and absent cells have none and
come last in both directions. -/
def compareCells (order : SortOrder) (a b : Option Value.Standing) : Ordering :=
  match a, b with
  | none, none => .eq
  | none, some _ => .gt
  | some _, none => .lt
  | some x, some y =>
    match order with
    | .asc => x.order y
    | .desc => (x.order y).swap

/-- The order of two rows of cells: the first direction of sort under which the cells differ
decides. -/
def compareStandings : List SortOrder → List (Option Value.Standing) →
    List (Option Value.Standing) → Ordering
  | order :: orders, a :: as, b :: bs =>
    (compareCells order a b).then (compareStandings orders as bs)
  | _, _, _ => .eq

/-- The standings of the cells of a row that sort clauses name. -/
def standings (clauses : List SortClause) (row : Row) : List (Option Value.Standing) :=
  clauses.map fun c => ((row.get? c.column).filter (!·.isNull)).map Value.standing

/-- The order of two rows: the first clause that tells them apart decides. -/
def compareRows (clauses : List SortClause) (a b : Row) : Ordering :=
  compareStandings (clauses.map (·.order)) (standings clauses a) (standings clauses b)

/-- Sorts rows so that equal ones keep their order. Clauses about columns that the first row lacks
do not take part. Rows that the clauses do not rank may be impossible to sort. -/
def sortRows (clauses : List SortClause) (rows : List Row) : Option (List Row) :=
  match rows with
  | [] => some []
  | first :: _ =>
    let active := clauses.filter fun c => first.contains c.column
    let orders := active.map (·.order)
    let placed := rows.map fun row => (standings active row, row)
    List.map (·.2) <$> StableSort.sort (fun a b => compareStandings orders a.1 b.1 = .lt) placed

/-- The first rows up to a limit; zero is no limit. -/
def limitRows (limit : Nat) (rows : List Row) : List Row :=
  if limit = 0 then rows else rows.take limit

/-- The answer that a result becomes under a request, sorted and cut. -/
def Table.answer (request : Request) (result : ResultSet) : Except QueryError Response :=
  match sortRows request.sortBy result.rows with
  | none => .error .unsortable
  | some rows => .ok {
      rows := limitRows request.limit rows
      totalRows := some rows.length
      columns := result.columns }

/-- The answer of a table to a request. -/
def Table.run (t : Table) (request : Request) : Except QueryError Response := do
  answer request (← t.result request)

end Chartboard
