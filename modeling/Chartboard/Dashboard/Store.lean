import Chartboard.Ledger
import Chartboard.Wire.Document

/-!
# Stores

A store keeps the written form of dashboards under their identifiers. Whoever saves says what time
it is and which identifier is new.
-/

namespace Chartboard

/-- What is listed of a stored dashboard. -/
structure Summary where
  /-- The identifier. -/
  id : Uuid
  /-- The name that users see. -/
  name : String
  /-- The data set that the charts query. -/
  datasetId : String
  /-- The number of charts. -/
  chartCount : Nat
  /-- When the dashboard was last saved. -/
  savedAt : Nat
  deriving DecidableEq, Repr, Inhabited

/-- A dashboard in a store. -/
structure StoredDashboard where
  /-- The written form of the document. -/
  text : String
  /-- What is listed. -/
  summary : Summary
  deriving DecidableEq, Repr, Inhabited

/-- Dashboards under their identifiers. -/
structure Store where
  /-- The stored dashboards in the order in which their identifiers first came. -/
  dashboards : Ledger Uuid StoredDashboard := ∅
  deriving Inhabited

/-- Why a store does not give or take a dashboard. -/
inductive StoreError where
  /-- Nothing is stored under the identifier. -/
  | notFound (id : Uuid)
  /-- The written form cannot be read back. -/
  | unreadable (cause : Json.DecodeError)

/-- The message for the user. -/
def StoreError.message : StoreError → String
  | notFound id => "dashboard " ++ id.text ++ " not found"
  | unreadable _ => "could not serialize dashboard"

namespace Store

/-- Saves a document under its identifier, or under a new one if it has none, and answers with
the identifier. -/
def save (s : Store) (now : Nat) (fresh : Uuid) (d : Document) : Uuid × Store :=
  let id := d.id.getD fresh
  let text := Json.Value.compress { d with id := some id }.toJson
  let summary :=
    { id, name := d.name, datasetId := d.datasetId, chartCount := d.charts.length, savedAt := now }
  (id, { dashboards := s.dashboards.insert id ⟨text, summary⟩ })

/-- The document under an identifier, as it was last saved. -/
def load (s : Store) (id : Uuid) : Except StoreError Document :=
  match s.dashboards.get? id with
  | none => .error (.notFound id)
  | some stored => (Document.ofText stored.text).mapError .unreadable

/-- Puts a summary behind those that were not saved before it. -/
def insertSummary (summary : Summary) : List Summary → List Summary
  | [] => [summary]
  | s :: rest =>
    if s.savedAt < summary.savedAt then summary :: s :: rest else s :: insertSummary summary rest

/-- The summaries, those saved last first. Of equal times, the identifier that came last is
first. -/
def list (s : Store) : List Summary :=
  let summaries := s.dashboards.entries.map fun entry => entry.2.summary
  summaries.reverse.foldl (fun sorted summary => insertSummary summary sorted) []

/-- The store without the dashboard under an identifier, which has to be there. -/
def delete (s : Store) (id : Uuid) : Except StoreError Store :=
  if s.dashboards.contains id then .ok { dashboards := s.dashboards.erase id }
  else .error (.notFound id)

/-- The number of dashboards. -/
def size (s : Store) : Nat :=
  s.dashboards.size

/-- Nothing is stored. -/
def isEmpty (s : Store) : Bool :=
  s.size == 0

end Store

end Chartboard
