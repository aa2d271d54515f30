import Chartboard.Proofs.Query.Sortable

/-!
# Queries without an answer

A query looks up the columns of its filters and then those that it is answered from, and it fails at
the first one that is not there. Once all of them are found only a histogram can still be without a
result: if it has nothing to bin, or if a selected row has something in its column that is no
number. A result becomes the answer unless its rows cannot be sorted, which takes many rows and a
column of numbers and other texts that are in no harmony. No other failure depends on what the cells
hold.
-/

namespace Chartboard

open Json (Value)
open Outcome

/-- The columns that a request looks up, in this order: those of its filters, and then the one that
is to be binned or those that make and measure the groups. -/
def Request.lookups (request : Request) : List String :=
  request.filters.map (·.column) ++
    if request.isHistogram then (request.aggregates.take 1).map (·.column)
    else request.groupBy ++ request.aggregates.map (·.column)

namespace Table

variable {t : Table} {request : Request} {e : QueryError}

/-- The first of some names that no column has. -/
def absent? (t : Table) (names : List String) : Option String :=
  names.find? fun name => name ∉ t.names

/-- A row has a value in a column that is no number, nor a text that reads as one. Doubles that are
not finite are read as null and count as no value. -/
def Unreadable (t : Table) (column : String) (record : Record) : Prop :=
  t.readAt column record ≠ .null ∧ (t.readAt column record).asNumber? = none

/-- What the failure of a request says about the table. -/
def Blames (t : Table) (request : Request) : QueryError → Prop
  | .unknownColumn name => t.absent? request.lookups = some name
  | .failure text =>
    t.absent? request.lookups = none ∧ request.isHistogram ∧ request.aggregates = [] ∧
      text = "histogram request has no value column"
  | .notNumeric column =>
    t.absent? request.lookups = none ∧ request.isHistogram ∧
      (∃ a, request.aggregates.head? = some a ∧ a.column = column) ∧
      ∃ record ∈ t.selection request.filters, t.Unreadable column record
  | .task text => .task text = QueryError.unsortable ∧ t.Unsortable request

/-- What a request needs of the table: the columns of its filters in any case, a column of numbers
for a histogram, and the columns of the groups and aggregates otherwise. A request for plain rows
has none of these. -/
structure Answers (t : Table) (request : Request) : Prop where
  /-- The columns of the filters are there. -/
  filters : ∀ f ∈ request.filters, f.column ∈ t.names
  /-- There is something to bin, and every selected row has a number in it or none at all. -/
  binned : request.isHistogram → ∃ a, request.aggregates.head? = some a ∧ a.column ∈ t.names ∧
    ∀ record ∈ t.selection request.filters, ¬ t.Unreadable a.column record
  /-- The grouping columns and those of the aggregates are there. -/
  grouped : request.isHistogram = false →
    (∀ name ∈ request.groupBy, name ∈ t.names) ∧ ∀ a ∈ request.aggregates, a.column ∈ t.names

/-! ## Absent columns -/

/-- The first absent name is sought among the first names, then among the others. -/
theorem absent?_append (names others : List String) :
    t.absent? (names ++ others) = (t.absent? names).or (t.absent? others) :=
  List.find?_append

/-- Which name is absent depends on the names of the columns alone. -/
theorem absent?_congr {t' : Table} (h : t'.names = t.names) (names : List String) :
    t'.absent? names = t.absent? names := by
  unfold absent?
  rw [h]

/-- A computation fails at the first of some columns that is absent. If all of them are there, it
fails for what is said to come later, and only for that. -/
def Fails {α : Type} (t : Table) (names : List String) (later : QueryError → Prop)
    (x : Except QueryError α) : Prop :=
  ∀ e, x = .error e ↔
    (∃ absent, t.absent? names = some absent ∧ e = .unknownColumn absent) ∨
      (t.absent? names = none ∧ later e)

/-- A computation fails for absent columns alone. -/
def LooksUp {α : Type} (t : Table) (names : List String) (x : Except QueryError α) : Prop :=
  t.Fails names (fun _ => False) x

section LooksUp

variable {α β : Type} {x : Except QueryError α} {names others : List String}
  {later : QueryError → Prop}

/-- A computation succeeds where no column is absent and nothing later goes wrong. -/
theorem Fails.exists_ok (h : t.Fails names later x) (hnames : t.absent? names = none)
    (hlater : ∀ e, ¬ later e) : ∃ a, x = .ok a := by
  cases x with
  | ok a => exact ⟨a, rfl⟩
  | error e =>
    obtain ⟨absent, habsent, -⟩ | ⟨-, hfailed⟩ := (h e).1 rfl
    · rw [hnames] at habsent
      cases habsent
    · exact absurd hfailed (hlater e)

/-- What comes second is looked up only if all that comes first is there. -/
theorem LooksUp.bind {f : α → Except QueryError β} (h : t.LooksUp names x)
    (hf : ∀ a, x = .ok a → t.Fails others later (f a)) :
    t.Fails (names ++ others) later (x >>= f) := by
  intro e
  rw [bind_eq_error, absent?_append, h e]
  cases habsent : t.absent? names with
  | some name =>
    have hfailed : ∀ a, x ≠ .ok a := fun a ha => by
      have herror := (h _).2 (Or.inl ⟨name, habsent, rfl⟩)
      rw [ha] at herror
      cases herror
    simp [hfailed]
  | none =>
    obtain ⟨a, rfl⟩ := h.exists_ok habsent fun _ => id
    simp [hf a rfl e]

/-- What cannot fail does not matter. -/
theorem Fails.andThen {f : α → Except QueryError β} (h : t.Fails names later x)
    (hf : ∀ a, ∃ b, f a = .ok b) : t.Fails names later (x >>= f) := by
  intro e
  rw [bind_eq_error, ← h e, or_iff_left]
  rintro ⟨a, -, hfailed⟩
  obtain ⟨b, hb⟩ := hf a
  rw [hb] at hfailed
  cases hfailed

end LooksUp

/-- Of two tables with columns of the same names each fails as the other does, unless cells that are
no numbers are what it fails for, or rows that cannot be sorted. -/
theorem Blames.congr {t' : Table} (hnames : t'.names = t.names)
    (he : ∀ column, e ≠ .notNumeric column) (hsort : e ≠ .unsortable) (h : t.Blames request e) :
    t'.Blames request e := by
  cases e with
  | unknownColumn name => exact (absent?_congr hnames _).trans h
  | failure text => exact ⟨(absent?_congr hnames _).trans h.1, h.2⟩
  | notNumeric column => exact absurd rfl (he column)
  | task text => exact absurd h.1 hsort

end Table

end Chartboard
