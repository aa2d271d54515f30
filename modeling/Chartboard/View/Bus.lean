import Chartboard.View.Event
import Chartboard.View.EventBus

/-!
# The bus of a dashboard

The handlers on the bus of a dashboard have names. They share a record of what they do: a handler
notes an event when it receives it, acts, and then notes that it is done.
-/

namespace Chartboard

instance : Kinded Event EventKind where
  kind := Event.kind

/-- What can be seen of a delivery. -/
inductive Delivery where
  /-- A handler has received an event. -/
  | received (handler : String) (event : Event)
  /-- A handler has done all it does. -/
  | finished (handler : String)

/-- What is done on the bus of a dashboard. -/
abbrev DashboardScript := Script Event EventKind (List Delivery)

/-- Something that is done on the bus, before other things. -/
structure Action where
  /-- The action with what follows it. -/
  before : DashboardScript → DashboardScript

namespace Action

/-- Some actions in order, and then something else. -/
def sequence (actions : List Action) (next : DashboardScript) : DashboardScript :=
  actions.foldr Action.before next

/-- Notes a delivery. -/
def note (delivery : Delivery) : Action :=
  ⟨fun next => .read fun record => .write (record ++ [delivery]) next⟩

/-- Publishes an event. -/
def publish (event : Event) : Action :=
  ⟨.publish event⟩

/-- Subscribes a handler of that name, which does some actions with an event. -/
def subscribe (name : String) (kind : EventKind) (react : Event → List Action) : Action :=
  ⟨.subscribe kind fun event =>
    sequence (note (.received name event) :: react event ++ [note (.finished name)]) .done⟩

end Action

/-- The handlers on the bus of a dashboard. -/
structure Bus where
  /-- The handlers in the order of their subscription. -/
  handlers : List (Handler Event EventKind (List Delivery)) := []

namespace Bus

/-- How deep publishing may nest. -/
def nestingLimit : Nat := 4096

/-- Does some actions from outside: the bus afterwards and the deliveries in order. -/
def perform (bus : Bus) (actions : List Action) : Option (Bus × List Delivery) := do
  let (done, _) ← EventBus.performWithin nestingLimit (Action.sequence actions .done)
    ⟨bus.handlers, []⟩
  pure (⟨done.handlers⟩, done.shared)

end Bus

end Chartboard
