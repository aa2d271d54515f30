import Chartboard.Chart.Spec
import Chartboard.Dashboard.Uuid
import Chartboard.Json.Value

/-!
# Events

What the charts of a dashboard tell whoever hosts them.
-/

namespace Chartboard

open Json (Value)

/-- The kinds of events. -/
inductive EventKind where
  /-- A specification was edited. -/
  | specChanged
  /-- A selected point asks for a filter. -/
  | crossFilterEmitted
  /-- A chart was drawn. -/
  | chartRendered
  /-- A chart failed. -/
  | chartFailed
  deriving DecidableEq, Repr, Inhabited

/-- Something that happened to a chart. -/
inductive Event where
  /-- The specification was edited. -/
  | specChanged (chart : Uuid) (spec : Spec)
  /-- A selected point asks for a filter. -/
  | crossFilterEmitted (chart : Uuid) (column : String) (value : Value)
  /-- The chart was drawn, perhaps as a placeholder. -/
  | chartRendered (chart : Uuid) (generation : Nat) (kind : ChartKind) (empty : Bool)
  /-- The chart failed; trying again may help. -/
  | chartFailed (chart : Uuid) (message : String) (retryable : Bool)
  deriving Inhabited

/-- The kind of an event. -/
def Event.kind : Event → EventKind
  | specChanged _ _ => .specChanged
  | crossFilterEmitted _ _ _ => .crossFilterEmitted
  | chartRendered _ _ _ _ => .chartRendered
  | chartFailed _ _ _ => .chartFailed

end Chartboard
