import Chartboard.Chart.Filter
import Chartboard.Chart.Spec

/-!
# Selected points

Selecting a point of a chart asks for a filter on the grouping column, if the kind of chart lets
points be selected and a grouping column is set.
-/

namespace Chartboard

open Json (Value)

/-- The change of the filters for a selected point of a chart. -/
def Spec.selection? (s : Spec) (value : Value) : Option FilterDelta :=
  match s.groupBy with
  | some column =>
    if s.kind.supportsPointSelection && !Text.isBlankText column then some ⟨column, value⟩
    else none
  | none => none

end Chartboard
