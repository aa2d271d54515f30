import Chartboard.Chart.Filter
import Chartboard.Dashboard.Uuid
import Chartboard.Ledger

/-!
# Shared filters

The charts of a dashboard share one filter set. Each chart may be kept from changing it and from
being queried anew when it changes; a chart about which nothing is said does both.
-/

namespace Chartboard

/-- How a chart takes part in the shared filters. -/
structure Participation where
  /-- Selected points of the chart change the filters. -/
  emits : Bool := true
  /-- The chart follows the filters. -/
  receives : Bool := true
  deriving DecidableEq, Repr, Inhabited

/-- The filters of a dashboard and how its charts take part in them. -/
structure SharedFilters where
  /-- The filters. -/
  filters : FilterSet := ∅
  /-- How the registered charts take part. -/
  registered : Ledger Uuid Participation := ∅
  deriving Inhabited

namespace SharedFilters

/-- Replaces all filters. -/
def setFilters (s : SharedFilters) (filters : FilterSet) : SharedFilters :=
  { s with filters }

/-- Removes all filters. -/
def clear (s : SharedFilters) : SharedFilters :=
  s.setFilters ∅

/-- Merges a change into the filters. -/
def merge (s : SharedFilters) (policy : MergePolicy) (delta : FilterDelta) : SharedFilters :=
  s.setFilters (s.filters.merge policy delta)

/-- Records how a chart takes part. -/
def register (s : SharedFilters) (chart : Uuid) (participation : Participation) : SharedFilters :=
  { s with registered := s.registered.insert chart participation }

/-- Forgets how a chart takes part. -/
def unregister (s : SharedFilters) (chart : Uuid) : SharedFilters :=
  { s with registered := s.registered.erase chart }

/-- How a chart takes part. -/
def participation (s : SharedFilters) (chart : Uuid) : Participation :=
  (s.registered.get? chart).getD {}

/-- Selected points of the chart change the filters. -/
def emits (s : SharedFilters) (chart : Uuid) : Bool :=
  (s.participation chart).emits

/-- The chart follows the filters. -/
def receives (s : SharedFilters) (chart : Uuid) : Bool :=
  (s.participation chart).receives

end SharedFilters

end Chartboard
