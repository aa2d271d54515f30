import Chartboard.Chart.Filter
import Chartboard.Chart.Spec
import Chartboard.Dashboard.Uuid

/-!
# Dashboard documents

A document is what is kept of a dashboard: the data set, the shared filters and the charts. The
layout belongs to whoever draws the dashboard and is carried along as it is.
-/

namespace Chartboard

open Json (Value)

/-- A dashboard as it is kept. -/
structure Document where
  /-- The identifier under which it is stored, once it is. -/
  id : Option Uuid := none
  /-- The name that users see. -/
  name : String
  /-- The data set that the charts query. -/
  datasetId : String
  /-- The filters that the charts share. -/
  filters : FilterSet := ∅
  /-- The charts in their order. -/
  charts : List Spec := []
  /-- The layout; null if there is none. -/
  layout : Value := .null
  deriving Inhabited

end Chartboard
