import Chartboard.View.Event
import Chartboard.View.Subscribers

/-!
# Turns

A turn is one call on a chart or a dashboard: what it leaves, what it answers and whom it tells.
What is left is there also when the call is refused.
-/

namespace Chartboard

/-- Why a chart refuses a call. -/
inductive Refusal where
  /-- The chart has been removed. -/
  | tornDown (chart : Uuid)
  /-- The chart is not mounted yet. -/
  | notMounted (chart : Uuid)
  deriving DecidableEq, Repr, Inhabited

namespace Refusal

/-- The chart that refuses. -/
def chart : Refusal → Uuid
  | tornDown chart => chart
  | notMounted chart => chart

/-- The message for the user. -/
def message (r : Refusal) : String :=
  match r with
  | tornDown chart => "chart " ++ chart.text ++ " has been removed"
  | notMounted chart => "chart " ++ chart.text ++ " is not mounted"

end Refusal

/-- Something that a call tells others. -/
inductive Notice where
  /-- A subscriber is told of a specification. -/
  | told (call : SpecCall)
  /-- An event is published. -/
  | published (event : Event)
  deriving Inhabited

/-- The outcome of a call. -/
structure Turn (σ α : Type) where
  /-- What the call leaves. -/
  state : σ
  /-- What the call answers. -/
  answer : Except Refusal α
  /-- Whom the call tells, in order. -/
  notices : List Notice := []

namespace Turn

variable {σ τ α β : Type}

/-- A call that is done and tells nobody. -/
def done (state : σ) (value : α) : Turn σ α :=
  { state, answer := .ok value }

/-- A call that is refused and tells nobody. -/
def refused (state : σ) (refusal : Refusal) : Turn σ α :=
  { state, answer := .error refusal }

/-- Goes on with a second call unless the first one is refused. -/
def andThen (turn : Turn σ α) (next : σ → α → Turn σ β) : Turn σ β :=
  match turn.answer with
  | .error refusal => { state := turn.state, answer := .error refusal, notices := turn.notices }
  | .ok value =>
    let second := next turn.state value
    { second with notices := turn.notices ++ second.notices }

/-- The same call, seen as a call on a larger state. -/
def within (turn : Turn σ α) (place : σ → τ) : Turn τ α :=
  { state := place turn.state, answer := turn.answer, notices := turn.notices }

end Turn

end Chartboard
