import Chartboard.Proofs.Outcome
import Chartboard.Proofs.StableSort.Joining
import Chartboard.Query.Execute

/-!
# Sorted and cut rows

Sorting changes the order of result rows only, and a limit cuts rows off at the end. So every row
of an answer is a row of the result, and an answer is empty only if the result is. A result becomes
no answer only if its rows cannot be sorted.
-/

namespace Chartboard

open Outcome

/-! ## Answers -/

/-- Without sort clauses the rows stay in their order. -/
theorem sortRows_nil (rows : List Row) : sortRows [] rows = some rows := by
  cases rows with
  | nil => rfl
  | cons first rest =>
    have hties := StableSort.sort_of_ties
      (fun a b : List (Option Json.Value.Standing) × Row => compareStandings [] a.1 b.1 = .lt)
      (fun _ _ => rfl) ((first :: rest).map fun row => (standings [] row, row))
    show List.map Prod.snd <$> StableSort.sort _ _ = some (first :: rest)
    rw [List.filter_nil, List.map_nil, hties, Option.map_eq_map, Option.map_some, List.map_map]
    exact congrArg some (List.map_id _)

/-- Sorted rows are the same rows, each as often. -/
theorem sortRows_perm {clauses : List SortClause} {rows sorted : List Row}
    (h : sortRows clauses rows = some sorted) : sorted.Perm rows := by
  unfold sortRows at h
  match rows with
  | [] =>
    cases h
    exact List.Perm.refl _
  | first :: rest =>
    obtain ⟨placed, hplaced, rfl⟩ := Option.map_eq_some_iff.1 h
    have hsorted := (StableSort.sort_perm _ hplaced).map Prod.snd
    rw [List.map_map] at hsorted
    have hrows : (first :: rest).map (Prod.snd ∘ fun row =>
        (standings (clauses.filter fun c => first.contains c.column) row, row)) =
        first :: rest := List.map_id _
    rwa [hrows] at hsorted

/-- Few rows can be sorted whatever is in them. -/
theorem sortRows_total {clauses : List SortClause} {rows : List Row}
    (h : rows.length ≤ StableSort.insertionLength) :
    ∃ sorted, sortRows clauses rows = some sorted := by
  unfold sortRows
  match rows with
  | [] => exact ⟨[], rfl⟩
  | first :: rest =>
    simp only
    rw [StableSort.sort_of_length_le (by rwa [List.length_map])]
    exact ⟨_, rfl⟩

/-- A limit of zero cuts nothing. -/
theorem limitRows_zero (rows : List Row) : limitRows 0 rows = rows :=
  rfl

/-- Rows within the limit are all kept. -/
theorem limitRows_of_length_le {limit : Nat} {rows : List Row} (h : rows.length ≤ limit) :
    limitRows limit rows = rows := by
  unfold limitRows
  split
  · rfl
  · exact List.take_of_length_le h

/-- What is left after the cut was there before it. -/
theorem mem_of_mem_limitRows {limit : Nat} {rows : List Row} {row : Row}
    (h : row ∈ limitRows limit rows) : row ∈ rows := by
  unfold limitRows at h
  split at h
  · exact h
  · exact List.mem_of_mem_take h

/-- The rows that are left keep their places. -/
theorem getElem_limitRows {limit : Nat} {rows : List Row} {i : Nat}
    (h : i < (limitRows limit rows).length) :
    ∃ h' : i < rows.length, (limitRows limit rows)[i] = rows[i] := by
  unfold limitRows at h ⊢
  split
  · rename_i hlimit
    rw [if_pos hlimit] at h
    exact ⟨h, rfl⟩
  · rename_i hlimit
    rw [if_neg hlimit, List.length_take] at h
    exact ⟨by omega, List.getElem_take⟩

/-- The cut leaves no rows only where there were none. -/
theorem limitRows_eq_nil_iff {limit : Nat} {rows : List Row} :
    limitRows limit rows = [] ↔ rows = [] := by
  unfold limitRows
  split
  · exact Iff.rfl
  · rename_i hlimit
    rw [List.take_eq_nil_iff]
    constructor
    · rintro (h | h)
      · exact absurd h hlimit
      · exact h
    · exact Or.inr

namespace Table

variable {request : Request} {result : ResultSet} {response : Response}

/-- An answer is a result whose rows are sorted and cut. -/
theorem answer_eq_ok :
    answer request result = .ok response ↔ ∃ rows, sortRows request.sortBy result.rows = some rows ∧
      response = ⟨limitRows request.limit rows, some result.rows.length, result.columns⟩ := by
  unfold answer
  cases hsort : sortRows request.sortBy result.rows with
  | none => simp
  | some rows => simp [(sortRows_perm hsort).length_eq, eq_comm]

/-- An answer is a result, sorted and cut. -/
theorem run_eq (t : Table) (request : Request) :
    t.run request = t.result request >>= answer request :=
  rfl

/-- A request has an answer exactly if it has a result that becomes one. -/
theorem run_eq_ok {t : Table} :
    t.run request = .ok response ↔
      ∃ result, t.result request = .ok result ∧ answer request result = .ok response :=
  bind_eq_ok

/-- An answer that is not sorted shows the first rows of the result. -/
theorem answer_of_unsorted (hsort : request.sortBy = []) (result : ResultSet) :
    answer request result =
      .ok ⟨limitRows request.limit result.rows, some result.rows.length, result.columns⟩ :=
  answer_eq_ok.2 ⟨result.rows, by rw [hsort, sortRows_nil], rfl⟩

/-- A request without sort clauses has an answer if it has a result. -/
theorem run_of_unsorted {t : Table} (hsort : request.sortBy = [])
    (h : t.result request = .ok result) :
    t.run request =
      .ok ⟨limitRows request.limit result.rows, some result.rows.length, result.columns⟩ :=
  run_eq_ok.2 ⟨result, h, answer_of_unsorted hsort result⟩

/-- Every row of an answer is a row of the result. -/
theorem mem_result_of_mem_answer (h : answer request result = .ok response) {row : Row}
    (hrow : row ∈ response.rows) : row ∈ result.rows := by
  obtain ⟨rows, hsort, rfl⟩ := answer_eq_ok.1 h
  exact (sortRows_perm hsort).mem_iff.1 (mem_of_mem_limitRows hrow)

/-- What holds of any two rows of a result holds of any two rows of the answer. -/
theorem pairwise_answer (h : answer request result = .ok response) {r : Row → Row → Prop}
    (hsymm : ∀ {row other}, r row other → r other row) (hrows : result.rows.Pairwise r) :
    response.rows.Pairwise r := by
  obtain ⟨rows, hsort, rfl⟩ := answer_eq_ok.1 h
  have hsorted : rows.Pairwise r := ((sortRows_perm hsort).pairwise_iff hsymm).2 hrows
  show (limitRows request.limit rows).Pairwise r
  unfold limitRows
  split
  · exact hsorted
  · exact hsorted.take

/-- Something that goes with every row of a result goes with the rows of the answer. -/
theorem forall₂_answer (h : answer request result = .ok response) {α : Type} {r : Row → α → Prop}
    {xs : List α} (hrows : List.Forall₂ r result.rows xs) :
    ∃ ys, ys.Subperm xs ∧ List.Forall₂ r response.rows ys := by
  obtain ⟨rows, hsort, rfl⟩ := answer_eq_ok.1 h
  obtain ⟨sorted, hsorted, hperm⟩ := List.perm_comp_forall₂ (sortRows_perm hsort) hrows
  show ∃ ys, ys.Subperm xs ∧ List.Forall₂ r (limitRows request.limit rows) ys
  unfold limitRows
  split
  · exact ⟨sorted, hperm.subperm, hsorted⟩
  · exact ⟨sorted.take request.limit, (List.take_sublist _ _).subperm.trans hperm.subperm,
      List.forall₂_take _ hsorted⟩

/-- An answer is without rows only where the result is. -/
theorem answer_rows_eq_nil_iff (h : answer request result = .ok response) :
    response.rows = [] ↔ result.rows = [] := by
  obtain ⟨rows, hsort, rfl⟩ := answer_eq_ok.1 h
  have hperm := sortRows_perm hsort
  show limitRows request.limit rows = [] ↔ _
  rw [limitRows_eq_nil_iff]
  constructor
  · rintro rfl
    exact List.nil_perm.1 hperm
  · intro hnil
    rw [hnil] at hperm
    exact List.perm_nil.1 hperm

/-- An answer without limit shows one row exactly where the result has it alone. -/
theorem answer_rows_eq_singleton_iff (h : answer request result = .ok response)
    (hlimit : request.limit = 0) {row : Row} : response.rows = [row] ↔ result.rows = [row] := by
  obtain ⟨rows, hsort, rfl⟩ := answer_eq_ok.1 h
  have hperm := sortRows_perm hsort
  show limitRows request.limit rows = [row] ↔ _
  rw [hlimit, limitRows_zero]
  constructor
  · rintro rfl
    exact List.perm_singleton.1 hperm.symm
  · intro hsingleton
    rw [hsingleton] at hperm
    exact List.perm_singleton.1 hperm

/-- Few result rows become an answer whatever the sort clauses are. -/
theorem answer_total (h : result.rows.length ≤ StableSort.insertionLength) :
    ∃ response, answer request result = .ok response := by
  obtain ⟨rows, hsort⟩ := @sortRows_total request.sortBy _ h
  exact ⟨_, answer_eq_ok.2 ⟨rows, hsort, rfl⟩⟩

end Table

end Chartboard
