import Chartboard.Chart.Catalog
import Chartboard.Chart.Filter
import Chartboard.Chart.Spec
import Chartboard.Json.Decode

/-!
# Written specifications, catalogs and filters

Unset optional fields are left out when they are written and may be left out or null when they
are read.
-/

namespace Chartboard

open Json (Value Decoder)

/-- A member that is written only if it is there. -/
def Json.Value.optionalMember (name : String) (value : Option Value) : List (String × Value) :=
  (value.map fun v => (name, v)).toList

namespace ChartKind

/-- Reads the name of a kind. -/
def decoder : Decoder ChartKind :=
  .alternative (Decoder.variant (all.map fun k => (k.name, k)))

/-- A kind as its name. -/
def toJson (k : ChartKind) : Value := .string k.name

end ChartKind

namespace Aggregation

/-- Reads the name of a function. -/
def decoder : Decoder Aggregation :=
  .alternative (Decoder.variant (all.map fun a => (a.name, a)))

/-- A function as its name. -/
def toJson (a : Aggregation) : Value := .string a.name

end Aggregation

namespace SortOrder

/-- Reads the name of a direction. -/
def decoder : Decoder SortOrder :=
  .alternative (Decoder.variant (all.map fun o => (o.name, o)))

/-- A direction as its name. -/
def toJson (o : SortOrder) : Value := .string o.name

end SortOrder

namespace Sorting

/-- Reads a sort. -/
def decoder : Decoder Sorting :=
  .record "SortSpec"
    [.optional "column" .string (fun column s => { s with column }) true,
     .defaulted "order" SortOrder.decoder fun order s => { s with order }]
    {}

/-- A sort as an object. -/
def toJson (s : Sorting) : Value :=
  .object (Value.optionalMember "column" (s.column.map .string) ++ [("order", s.order.toJson)])

end Sorting

namespace Spec

/-- The fields of a specification in the order of their declaration. -/
def fields : List (Json.Field Spec) :=
  [.defaulted "chart_kind" ChartKind.decoder fun kind s => { s with kind },
   .optional "group_by" .string (fun groupBy s => { s with groupBy }) true,
   .optional "sub_group" .string (fun subGroup s => { s with subGroup }) true,
   .optional "value_column" .string (fun valueColumn s => { s with valueColumn }) true,
   .optional "secondary_value_column" .string
     (fun secondaryValueColumn s => { s with secondaryValueColumn }) true,
   .defaulted "aggregation" Aggregation.decoder fun aggregation s => { s with aggregation },
   .optional "sort" Sorting.decoder (fun sort s => { s with sort }) true,
   .defaulted "stacked" .bool fun stacked s => { s with stacked },
   .optional "bins" (.natural 32) (fun bins s => { s with bins }) true,
   .defaulted "conditional_coloring" .bool
     fun conditionalColoring s => { s with conditionalColoring }]

/-- Reads a specification. -/
def decoder : Decoder Spec :=
  .record "VisualizationSpec" fields {}

/-- A specification as an object, in the order of declaration. -/
def toJson (s : Spec) : Value :=
  .object
    ([("chart_kind", s.kind.toJson)]
      ++ Value.optionalMember "group_by" (s.groupBy.map .string)
      ++ Value.optionalMember "sub_group" (s.subGroup.map .string)
      ++ Value.optionalMember "value_column" (s.valueColumn.map .string)
      ++ Value.optionalMember "secondary_value_column" (s.secondaryValueColumn.map .string)
      ++ [("aggregation", s.aggregation.toJson)]
      ++ Value.optionalMember "sort" (s.sort.map Sorting.toJson)
      ++ [("stacked", .bool s.stacked)]
      ++ Value.optionalMember "bins" (s.bins.map fun n => Value.int n)
      ++ [("conditional_coloring", .bool s.conditionalColoring)])

end Spec

/-- Reads the new value of a field; null clears a field that may be unset. -/
def SpecEdit.decoder : SpecField → Decoder SpecEdit
  | .kind => fun m t => .kind <$> ChartKind.decoder m t
  | .groupBy => fun m t => .groupBy <$> Decoder.optional .string m t
  | .subGroup => fun m t => .subGroup <$> Decoder.optional .string m t
  | .valueColumn => fun m t => .valueColumn <$> Decoder.optional .string m t
  | .secondaryValueColumn => fun m t => .secondaryValueColumn <$> Decoder.optional .string m t
  | .aggregation => fun m t => .aggregation <$> Aggregation.decoder m t
  | .sort => fun m t => .sort <$> Decoder.optional Sorting.decoder m t
  | .stacked => fun m t => .stacked <$> Decoder.bool m t
  | .bins => fun m t => .bins <$> Decoder.optional (.natural 32) m t
  | .conditionalColoring => fun m t => .conditionalColoring <$> Decoder.bool m t

namespace DType

/-- Reads the name of a type; every name is allowed. -/
def decoder : Decoder DType :=
  .alternative fun name => .ok (ofName name)

/-- A type as its name. -/
def toJson (d : DType) : Value := .string d.name

end DType

namespace Catalog

/-- Reads a column. -/
def columnDecoder : Decoder ColumnInfo :=
  .record "ColumnDescriptor"
    [.required "name" .string fun name c => { c with name },
     .required "dtype" DType.decoder fun dtype c => { c with dtype }]
    default

/-- Reads a catalog. -/
def decoder : Decoder Catalog :=
  fun m t => Catalog.mk <$> Decoder.list columnDecoder m t

/-- A catalog as a list of columns. -/
def toJson (c : Catalog) : Value :=
  .array (c.columns.map fun column =>
    .object [("name", .string column.name), ("dtype", column.dtype.toJson)])

end Catalog

namespace FilterSet

/-- Reads a filter set; in a text, `outside` containers are open around it. -/
def decoder (outside : Nat) : Decoder FilterSet :=
  fun m t => SortedMap.ofList <$> Decoder.entries (.anything (outside + 1)) m t

/-- A filter set as an object. -/
def toJson (set : FilterSet) : Value :=
  .object set.entries

end FilterSet

namespace Filter

/-- The one way in which cells are compared, by its name. -/
def operatorName : String := "eq"

/-- Reads a filter; in a text, `outside` containers are open around it. -/
def decoder (outside : Nat) : Decoder Filter :=
  .record "Filter"
    [.required "column" .string fun column f => { f with column },
     .defaulted "operator" (.alternative (Decoder.variant [(operatorName, ())])) fun _ f => f,
     .required "value" (.anything (outside + 1)) fun value f => { f with value }]
    default

/-- A filter as an object. -/
def toJson (f : Filter) : Value :=
  .object [("column", .string f.column), ("operator", .string operatorName), ("value", f.value)]

end Filter

end Chartboard
