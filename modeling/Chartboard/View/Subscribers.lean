import Chartboard.Chart.Spec
import Chartboard.Dashboard.Uuid

/-!
# Subscribers

Subscribers follow the specification of a chart. A subscriber that registers several times is told
several times. Nothing keeps a subscriber from going away, and one that has gone is told no more.
-/

namespace Chartboard

/-- What a subscriber is told. -/
structure SpecCall where
  /-- The subscriber. -/
  subscriber : String
  /-- The chart of which the specification changed. -/
  chart : Uuid
  /-- The specification after the change. -/
  spec : Spec
  deriving DecidableEq, Repr, Inhabited

/-- The registrations of subscribers that are still there. -/
structure Subscribers where
  /-- The subscribers in the order of their registrations. -/
  registrations : List String := []
  deriving DecidableEq, Repr, Inhabited

namespace Subscribers

/-- Registers a subscriber, perhaps once more. -/
def add (s : Subscribers) (subscriber : String) : Subscribers :=
  ⟨s.registrations ++ [subscriber]⟩

/-- Lets a subscriber go, with all its registrations. -/
def drop (s : Subscribers) (subscriber : String) : Subscribers :=
  ⟨s.registrations.filter fun name => name ≠ subscriber⟩

/-- Lets all subscribers go. -/
def clear (_ : Subscribers) : Subscribers :=
  {}

/-- The number of registrations. -/
def size (s : Subscribers) : Nat :=
  s.registrations.length

/-- Nobody follows the chart. -/
def isEmpty (s : Subscribers) : Bool :=
  s.registrations.isEmpty

/-- One call for each registration. -/
def notify (s : Subscribers) (chart : Uuid) (spec : Spec) : List SpecCall :=
  s.registrations.map fun subscriber => ⟨subscriber, chart, spec⟩

end Subscribers

end Chartboard
