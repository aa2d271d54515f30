/-!
# Event buses

Handlers subscribe to one kind of events. A published event goes to the handlers that are subscribed
to its kind when it is published, in the order of their subscription. A handler may publish and
subscribe in turn, but a handler that is still at work is passed over, so none is ever at work
twice at a time.
-/

namespace Chartboard

/-- Events, each of which is of one kind. -/
class Kinded (ε : Type) (κ : outParam Type) where
  /-- The kind of an event. -/
  kind : ε → κ

/-- What a handler does with an event, step by step. Whatever handlers remember is shared by all of
them. -/
inductive Script (ε κ σ : Type) where
  /-- There is nothing left to do. -/
  | done
  /-- It looks at what is shared, and goes on as it finds it. -/
  | read (next : σ → Script ε κ σ)
  /-- It replaces what is shared. -/
  | write (shared : σ) (next : Script ε κ σ)
  /-- It publishes an event and waits until that is over. -/
  | publish (event : ε) (next : Script ε κ σ)
  /-- It subscribes a handler. -/
  | subscribe (kind : κ) (react : ε → Script ε κ σ) (next : Script ε κ σ)

/-- A handler of one kind of events. -/
structure Handler (ε κ σ : Type) where
  /-- The kind of events that it is subscribed to. -/
  kind : κ
  /-- What it does with an event. -/
  react : ε → Script ε κ σ

/-- What happens on a bus. -/
inductive Incident (ε κ σ : Type) where
  /-- The publication of an event begins. -/
  | published (event : ε)
  /-- The handler at a place receives the event that is being published. -/
  | received (place : Nat) (event : ε)
  /-- The handler at a place has done all that it does with the event. -/
  | finished (place : Nat)
  /-- The handler at a place is passed over, since it is still at work. -/
  | passedOver (place : Nat) (event : ε)
  /-- The publication that began last, of those that go on, is over. -/
  | settled
  /-- A handler is subscribed. -/
  | subscribed (handler : Handler ε κ σ)

/-- A bus with its handlers and what they share. -/
structure EventBus (ε κ σ : Type) where
  /-- The handlers in the order of their subscription. -/
  handlers : List (Handler ε κ σ)
  /-- What the handlers share. -/
  shared : σ

namespace EventBus

variable {ε κ σ : Type}

/-- Subscribes a handler. -/
def subscribe (bus : EventBus ε κ σ) (handler : Handler ε κ σ) : EventBus ε κ σ :=
  { bus with handlers := bus.handlers ++ [handler] }

/-- The handlers of a kind of events, among some handlers, with their places. -/
def handlersOf [DecidableEq κ] (handlers : List (Handler ε κ σ)) (kind : κ) :
    List (Nat × Handler ε κ σ) :=
  (handlers.zipIdx.filter fun (handler, _) => handler.kind = kind).map fun (handler, place) =>
    (place, handler)

/-- Follows a script, given how events are published. -/
def follow (publish : ε → EventBus ε κ σ → Option (EventBus ε κ σ × List (Incident ε κ σ))) :
    Script ε κ σ → EventBus ε κ σ → Option (EventBus ε κ σ × List (Incident ε κ σ))
  | .done, bus => some (bus, [])
  | .read next, bus => follow publish (next bus.shared) bus
  | .write shared next, bus => follow publish next { bus with shared }
  | .publish event next, bus => do
    let (bus, inner) ← publish event bus
    let (bus, later) ← follow publish next bus
    pure (bus, inner ++ later)
  | .subscribe kind react next, bus => do
    let (bus, later) ← follow publish next (bus.subscribe ⟨kind, react⟩)
    pure (bus, .subscribed ⟨kind, react⟩ :: later)

/-- Gives an event to some handlers in order, given how events are published while the handlers at
some places are at work. -/
def deliver (publish : List Nat → ε → EventBus ε κ σ →
      Option (EventBus ε κ σ × List (Incident ε κ σ))) (atWork : List Nat) (event : ε) :
    List (Nat × Handler ε κ σ) → EventBus ε κ σ →
      Option (EventBus ε κ σ × List (Incident ε κ σ))
  | [], bus => some (bus, [])
  | (place, handler) :: rest, bus =>
    if place ∈ atWork then do
      let (bus, later) ← deliver publish atWork event rest bus
      pure (bus, .passedOver place event :: later)
    else do
      let (bus, inner) ← follow (publish (place :: atWork)) (handler.react event) bus
      let (bus, later) ← deliver publish atWork event rest bus
      pure (bus, .received place event :: inner ++ .finished place :: later)

variable [DecidableEq κ] [Kinded ε κ]

/-- Publishes an event while the handlers at some places are at work; none if publishing nests
deeper than a bound. -/
def publishWithin : Nat → List Nat → ε → EventBus ε κ σ →
    Option (EventBus ε κ σ × List (Incident ε κ σ))
  | 0, _, _, _ => none
  | depth + 1, atWork, event, bus => do
    let (bus, inner) ← deliver (publishWithin depth) atWork event
      (handlersOf bus.handlers (Kinded.kind event)) bus
    pure (bus, .published event :: inner ++ [.settled])

/-- Follows a script from outside, when no handler is at work: the bus afterwards and what happens
on it; none if publishing nests deeper than a bound. -/
def performWithin (depth : Nat) (script : Script ε κ σ) (bus : EventBus ε κ σ) :
    Option (EventBus ε κ σ × List (Incident ε κ σ)) :=
  follow (publishWithin depth []) script bus

end EventBus

end Chartboard
