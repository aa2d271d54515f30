import Chartboard.Json.Value
import Chartboard.SortedMap

/-!
# Filters

A filter set gives some columns the one value that a row must have there. It is sorted by column,
so sets with the same content ask for the same filters in the same order.
-/

namespace Chartboard

open Json (Value)

/-- A row passes when its cell in the column agrees with the value. -/
structure Filter where
  /-- The column that is compared. -/
  column : String
  /-- The value that it must have. -/
  value : Value
  deriving Inhabited, Repr

/-- The values that some columns must have, in ascending order of the columns. -/
abbrev FilterSet := SortedMap Value

namespace FilterSet

/-- The filters of a set, one for each column. -/
def toFilters (set : FilterSet) : List Filter :=
  set.entries.map fun e => ⟨e.1, e.2⟩

/-- Two sets filter the same columns by values that agree. -/
def same (a b : FilterSet) : Bool :=
  Value.sameMembers a.entries b.entries

end FilterSet

/-- The change of the filters that a selected point asks for. -/
structure FilterDelta where
  /-- The column to filter. -/
  column : String
  /-- The value that was selected. -/
  value : Value
  deriving Inhabited, Repr

/-- How a change is merged into a filter set. -/
inductive MergePolicy where
  /-- The new value takes the place of the old one. -/
  | replace
  /-- The same value again removes the filter; another value takes its place. -/
  | toggle
  deriving DecidableEq, Repr, Inhabited

/-- The filter set after a change. -/
def FilterSet.merge (set : FilterSet) (policy : MergePolicy) (delta : FilterDelta) : FilterSet :=
  match policy with
  | .replace => set.insert delta.column delta.value
  | .toggle =>
    match set.get? delta.column with
    | some old =>
      if old.same delta.value then set.erase delta.column
      else set.insert delta.column delta.value
    | none => set.insert delta.column delta.value

end Chartboard
