import Chartboard.Chart.Kind
import Chartboard.Text.Blank

/-!
# Chart specifications

A specification describes one chart as its editor left it. Fields that do not apply to the kind of
the chart are kept, so they are there again when the kind is switched back.
-/

namespace Chartboard

/-- The sort that a chart asks for. Charts are always sorted by their value. -/
structure Sorting where
  /-- A column that is remembered but does not take part. -/
  column : Option String := none
  /-- The direction. -/
  order : SortOrder := .asc
  deriving DecidableEq, Repr, Inhabited

/-- The description of one chart. -/
structure Spec where
  /-- The kind of chart. -/
  kind : ChartKind := .bar
  /-- The column whose values are the groups. -/
  groupBy : Option String := none
  /-- The column whose values are the series. -/
  subGroup : Option String := none
  /-- The column that is aggregated or binned. -/
  valueColumn : Option String := none
  /-- The column on the second axis. -/
  secondaryValueColumn : Option String := none
  /-- The function that is applied to the value columns. -/
  aggregation : Aggregation := .sum
  /-- The sort, if one is wanted. -/
  sort : Option Sorting := none
  /-- Series stand on top of each other. -/
  stacked : Bool := false
  /-- The number of bins. -/
  bins : Option Nat := none
  /-- Bars are coloured by their side of the mean. -/
  conditionalColoring : Bool := false
  deriving DecidableEq, Repr, Inhabited

/-- The fields of a specification. -/
inductive SpecField where
  /-- The kind of chart. -/
  | kind
  /-- The grouping column. -/
  | groupBy
  /-- The series column. -/
  | subGroup
  /-- The value column. -/
  | valueColumn
  /-- The value column of the second axis. -/
  | secondaryValueColumn
  /-- The function. -/
  | aggregation
  /-- The sort. -/
  | sort
  /-- The stacking. -/
  | stacked
  /-- The number of bins. -/
  | bins
  /-- The colouring. -/
  | conditionalColoring
  deriving DecidableEq, Repr, Inhabited

namespace SpecField

/-- All fields in the order of their declaration. -/
def all : List SpecField :=
  [kind, groupBy, subGroup, valueColumn, secondaryValueColumn, aggregation, sort, stacked, bins,
    conditionalColoring]

/-- The written name of a field. -/
def name : SpecField → String
  | kind => "chart_kind"
  | groupBy => "group_by"
  | subGroup => "sub_group"
  | valueColumn => "value_column"
  | secondaryValueColumn => "secondary_value_column"
  | aggregation => "aggregation"
  | sort => "sort"
  | stacked => "stacked"
  | bins => "bins"
  | conditionalColoring => "conditional_coloring"

end SpecField

/-- A column field counts as unset when it is absent or holds only blanks. -/
def isUnset (field : Option String) : Bool :=
  match field with
  | none => true
  | some name => Text.isBlankText name

namespace Spec

/-- The key of the value column's aggregate. -/
def valueKey (s : Spec) : Option String :=
  s.valueColumn.map fun c => Aggregate.key ⟨c, s.aggregation⟩

/-- The key of the second aggregate; only charts with two axes have one. -/
def secondaryKey (s : Spec) : Option String :=
  if s.kind = .dualAxis then
    s.secondaryValueColumn.map fun c => Aggregate.key ⟨c, s.aggregation⟩
  else none

/-- The series column, if the kind of chart takes one. -/
def effectiveSubGroup (s : Spec) : Option String :=
  if s.kind.supportsSubGroup then s.subGroup else none

/-- Only bars without series are coloured by their side of the mean. -/
def colorsByMean (s : Spec) : Bool :=
  s.conditionalColoring && s.kind == .bar && s.effectiveSubGroup.isNone

/-- The first field that the kind of chart requires and that is unset. -/
def missingField (s : Spec) : Option SpecField :=
  if s.kind.requiresGroupBy && isUnset s.groupBy then some .groupBy
  else if isUnset s.valueColumn then some .valueColumn
  else if s.kind == .dualAxis && isUnset s.secondaryValueColumn then some .secondaryValueColumn
  else if s.kind == .histogram && s.bins.isNone then some .bins
  else none

/-- Every required field is set. -/
def isComplete (s : Spec) : Bool :=
  s.missingField.isNone

end Spec

/-- One action of an editor: a field and its new value. -/
inductive SpecEdit where
  /-- Another kind of chart. -/
  | kind (kind : ChartKind)
  /-- Another grouping column, or none. -/
  | groupBy (column : Option String)
  /-- Another series column, or none. -/
  | subGroup (column : Option String)
  /-- Another value column, or none. -/
  | valueColumn (column : Option String)
  /-- Another column on the second axis, or none. -/
  | secondaryValueColumn (column : Option String)
  /-- Another function. -/
  | aggregation (function : Aggregation)
  /-- Another sort, or none. -/
  | sort (sorting : Option Sorting)
  /-- Stacking on or off. -/
  | stacked (on : Bool)
  /-- Another number of bins, or none. -/
  | bins (count : Option Nat)
  /-- Colouring on or off. -/
  | conditionalColoring (on : Bool)
  deriving DecidableEq, Repr, Inhabited

/-- The specification after an edit. -/
def Spec.apply (s : Spec) : SpecEdit → Spec
  | .kind kind => { s with kind }
  | .groupBy column => { s with groupBy := column }
  | .subGroup column => { s with subGroup := column }
  | .valueColumn column => { s with valueColumn := column }
  | .secondaryValueColumn column => { s with secondaryValueColumn := column }
  | .aggregation function => { s with aggregation := function }
  | .sort sorting => { s with sort := sorting }
  | .stacked on => { s with stacked := on }
  | .bins count => { s with bins := count }
  | .conditionalColoring on => { s with conditionalColoring := on }

/-- The field that an edit is about. -/
def SpecEdit.field : SpecEdit → SpecField
  | .kind _ => .kind
  | .groupBy _ => .groupBy
  | .subGroup _ => .subGroup
  | .valueColumn _ => .valueColumn
  | .secondaryValueColumn _ => .secondaryValueColumn
  | .aggregation _ => .aggregation
  | .sort _ => .sort
  | .stacked _ => .stacked
  | .bins _ => .bins
  | .conditionalColoring _ => .conditionalColoring

end Chartboard
