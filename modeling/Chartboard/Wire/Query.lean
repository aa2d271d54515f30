import Chartboard.Query.Compiled
import Chartboard.Wire.Chart

/-!
# Written requests and responses

Rows keep the order of their keys; a key that comes twice keeps its first place and takes its last
value. An unknown total and an empty list of columns are left out.
-/

namespace Chartboard

open Json (Value Decoder DecodeError)

namespace Aggregate

/-- Reads an aggregate. -/
def decoder : Decoder Aggregate :=
  .record "AggregationClause"
    [.required "column" .string fun column a => { a with column },
     .required "function" Aggregation.decoder fun function a => { a with function }]
    default

/-- An aggregate as an object. -/
def toJson (a : Aggregate) : Value :=
  .object [("column", .string a.column), ("function", a.function.toJson)]

end Aggregate

namespace SortClause

/-- Reads a sort clause. -/
def decoder : Decoder SortClause :=
  .record "SortClause"
    [.required "column" .string fun column c => { c with column },
     .defaulted "order" SortOrder.decoder fun order c => { c with order }]
    default

/-- A sort clause as an object. -/
def toJson (c : SortClause) : Value :=
  .object [("column", .string c.column), ("order", c.order.toJson)]

end SortClause

namespace Request

/-- Reads a request. -/
def decoder : Decoder Request :=
  .record "AggregationQueryRequest"
    [.defaulted "group_by" (.list .string) fun groupBy r => { r with groupBy },
     .defaulted "aggregations" (.list Aggregate.decoder) fun aggregates r => { r with aggregates },
     .defaulted "sort_by" (.list SortClause.decoder) fun sortBy r => { r with sortBy },
     .defaulted "filters" (.list (Filter.decoder 2)) fun filters r => { r with filters },
     .required "limit" .count fun limit r => { r with limit },
     .defaulted "is_histogram" .bool fun isHistogram r => { r with isHistogram },
     .optional "histogram_bins" (.natural 32) (fun bins r => { r with bins }) true]
    {}

/-- A request as an object, in the order of declaration. -/
def toJson (r : Request) : Value :=
  .object
    ([("group_by", .array (r.groupBy.map .string)),
      ("aggregations", .array (r.aggregates.map Aggregate.toJson)),
      ("sort_by", .array (r.sortBy.map SortClause.toJson)),
      ("filters", .array (r.filters.map Filter.toJson)),
      ("limit", Value.int r.limit),
      ("is_histogram", .bool r.isHistogram)]
      ++ Value.optionalMember "histogram_bins" (r.bins.map fun n => Value.int n))

/-- Reads the text of a request. -/
def ofText (text : String) : Except DecodeError Request :=
  decoder.ofText text

end Request

namespace Row

/-- Reads a row; in a text, `outside` containers are open around it. -/
def decoder (outside : Nat) : Decoder Row :=
  fun m t => Ledger.ofList <$> Decoder.entries (.anything (outside + 1)) m t

/-- A row as an object. -/
def toJson (row : Row) : Value :=
  .object row.entries

end Row

namespace Response

/-- Reads a response. -/
def decoder : Decoder Response :=
  .record "QueryResponse"
    [.required "data" (.list (Row.decoder 2)) fun rows r => { r with rows },
     .optional "total_rows" .count (fun totalRows r => { r with totalRows }) true,
     .defaulted "columns" (.list .string) fun columns r => { r with columns }]
    {}

/-- A response as an object. -/
def toJson (r : Response) : Value :=
  .object
    ([("data", .array (r.rows.map Row.toJson))]
      ++ Value.optionalMember "total_rows" (r.totalRows.map fun n => Value.int n)
      ++ (if r.columns.isEmpty then [] else [("columns", .array (r.columns.map .string))]))

/-- Reads the text of a response. -/
def ofText (text : String) : Except DecodeError Response :=
  decoder.ofText text

end Response

namespace QueryLimits

/-- Reads the limits of compiled requests. -/
def decoder : Decoder QueryLimits :=
  .record "CompilerConfig"
    [.required "row_limit" .count fun rows l => { l with rows },
     .required "kpi_limit" .count fun kpi l => { l with kpi }]
    {}

/-- The limits as an object. -/
def toJson (l : QueryLimits) : Value :=
  .object [("row_limit", Value.int l.rows), ("kpi_limit", Value.int l.kpi)]

end QueryLimits

end Chartboard
