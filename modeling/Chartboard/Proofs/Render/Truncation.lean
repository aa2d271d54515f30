import Chartboard.Proofs.Query.Ordering
import Chartboard.Proofs.Render.Drawing

/-!
# Rows that are not shown

The rows of a result are cut twice before a table shows them: by the limit of the request and by the
display cap of the chart. Neither cut changes a row, and the number of rows that is reported is the
one before both.
-/

namespace Chartboard

open Outcome

/-! ## The limit -/

/-- The answer with its first rows alone, up to a limit; zero is no limit. -/
def Response.limited (limit : Nat) (r : Response) : Response :=
  { r with rows := limitRows limit r.rows }

/-- What a limit leaves is the beginning of the rows. -/
theorem limitRows_append_rest (limit : Nat) (rows : List Row) :
    ∃ rest, limitRows limit rows ++ rest = rows := by
  unfold limitRows
  split
  · exact ⟨[], List.append_nil rows⟩
  · exact ⟨rows.drop limit, List.take_append_drop limit rows⟩

namespace Table

/-- Rows are found and sorted without regard to the limit. -/
theorem run_limit (t : Table) (request : Request) (limit : Nat) :
    t.run { request with limit } =
      Response.limited limit <$> t.run { request with limit := 0 } := by
  have hresult : t.result { request with limit } = t.result { request with limit := 0 } := rfl
  rw [run_eq, run_eq, hresult]
  cases t.result { request with limit := 0 } with
  | error e => rfl
  | ok result =>
    show answer { request with limit } result =
      Response.limited limit <$> answer { request with limit := 0 } result
    unfold answer
    cases sortRows request.sortBy result.rows with
    | none => rfl
    | some rows => rfl

/-- An answer without limit reports as many rows as it has. -/
theorem totalRows_of_run {t : Table} {request : Request} (hlimit : request.limit = 0)
    {whole : Response} (h : t.run request = .ok whole) :
    whole.totalRows = some whole.rows.length := by
  obtain ⟨result, -, hanswer⟩ := run_eq_ok.1 h
  obtain ⟨rows, hsort, rfl⟩ := answer_eq_ok.1 hanswer
  show some _ = some (limitRows request.limit rows).length
  rw [hlimit, limitRows_zero, (sortRows_perm hsort).length_eq]

end Table

/-! ## The display cap -/

/-- A total that counts at least the rows of an answer is its number of rows. -/
theorem Response.rowCount_of_totalRows {r : Response} {n : Nat} (h : r.totalRows = some n)
    (hlength : r.rows.length ≤ n) : r.rowCount = n := by
  unfold rowCount
  rw [h, Option.getD_some, Nat.max_eq_left hlength]

/-- The rows that a table shows, out of the rows of an answer. -/
def Response.toTable (displayCap : Nat) (r : Response) : TableModel where
  columns := r.columnNames
  rows := r.rows.take displayCap
  totalRows := r.rowCount

/-- An answer with rows is drawn as a table up to the display cap. -/
theorem RenderModel.ofResponse_table (displayCap : Nat) (s : Spec) {r : Response}
    (h : r.rows ≠ []) : ofResponse displayCap .table s r = .ok (.table (r.toTable displayCap)) := by
  unfold ofResponse
  rw [Response.isEmpty_eq_false h, if_neg Bool.false_ne_true]
  rfl

/-- Rows are truncated where some are left besides those shown. -/
theorem TableModel.isTruncated_iff {m : TableModel} {rows rest : List Row}
    (hrows : m.rows ++ rest = rows) (htotal : m.totalRows = rows.length) :
    m.isTruncated ↔ rest ≠ [] := by
  have hlength : m.rows.length + rest.length = rows.length := by
    rw [← hrows, List.length_append]
  have hrest := List.length_pos_iff (l := rest)
  unfold isTruncated
  rw [decide_eq_true_iff, htotal, ← hrest]
  omega

namespace Table

/-- A limit only cuts the rows that an answer shows, and the display cap of a table those that the
table shows: the table has the first of the rows as they are, says how many there are in all, and
says that it is truncated where one of them is not shown. -/
theorem run_limited_shown (t : Table) (request : Request) (limit displayCap : Nat) (s : Spec) :
    t.run { request with limit } =
      (fun whole => { whole with
        rows := if limit = 0 then whole.rows else whole.rows.take limit }) <$>
        t.run { request with limit := 0 } ∧
    ∀ response, t.run { request with limit } = .ok response →
      ∃ whole, t.run { request with limit := 0 } = .ok whole ∧
        response.totalRows = some whole.rows.length ∧
        (response.rows = [] →
          RenderModel.ofResponse displayCap .table s response = .error (.emptyResult .table)) ∧
        (response.rows ≠ [] → ∃ m,
          RenderModel.ofResponse displayCap .table s response = .ok (.table m) ∧
          m.columns = response.columnNames ∧
          m.rows = response.rows.take (min displayCap response.rows.length) ∧
          m.totalRows = whole.rows.length ∧
          (m.isTruncated ↔ ∃ hidden, hidden ≠ [] ∧ whole.rows = m.rows ++ hidden)) := by
  have hrun := t.run_limit request limit
  refine ⟨hrun, ?_⟩
  intro response hresponse
  rw [hrun, map_eq_ok] at hresponse
  obtain ⟨whole, hwhole, rfl⟩ := hresponse
  have htotal : whole.totalRows = some whole.rows.length := totalRows_of_run rfl hwhole
  obtain ⟨beyond, hbeyond⟩ := limitRows_append_rest limit whole.rows
  refine ⟨whole, hwhole, htotal, RenderModel.ofResponse_of_isEmpty displayCap .table s, ?_⟩
  intro hne
  have hcount : ((whole.limited limit).toTable displayCap).totalRows = whole.rows.length := by
    refine Response.rowCount_of_totalRows htotal ?_
    rw [← hbeyond, List.length_append]
    exact Nat.le_add_right _ _
  -- what is hidden is what the cap takes off the answer, and then what the limit took off the rows
  have hshown : ((whole.limited limit).toTable displayCap).rows ++
      ((whole.limited limit).rows.drop displayCap ++ beyond) = whole.rows := by
    rw [← List.append_assoc]
    exact (congrArg (· ++ beyond) (List.take_append_drop displayCap _)).trans hbeyond
  refine ⟨_, RenderModel.ofResponse_table displayCap s hne, rfl, ?_, hcount, ?_⟩
  · exact List.take_eq_take_min
  · rw [TableModel.isTruncated_iff hshown hcount]
    constructor
    · intro hrest
      exact ⟨_, hrest, hshown.symm⟩
    · rintro ⟨hidden, hne', hwhole'⟩
      rw [← hshown, List.append_cancel_left_eq] at hwhole'
      rw [hwhole']
      exact hne'

/-! ## A ranking that is cut twice -/

/-- The points of some teams. -/
def pointsTable : Table where
  columns := [⟨"team", .text⟩, ⟨"points", .int 64⟩]
  records :=
    [[.text "Blue", .int 7], [.text "Red", .int 11], [.text "Green", .int 2],
     [.text "White", .int 9]]

/-- The teams by their points. -/
def ranking : Request where
  sortBy := [⟨"points", .desc⟩]

/-- Of four teams three are answered and two are shown. -/
theorem run_limited_shown_ranking :
    ∃ response m, pointsTable.run { ranking with limit := 3 } = .ok response ∧
      response.rows.map (·.get? "team") =
        [some (.string "Red"), some (.string "White"), some (.string "Blue")] ∧
      RenderModel.ofResponse 2 .table { kind := .table } response = .ok (.table m) ∧
      m.rows = response.rows.take 2 ∧ m.totalRows = 4 ∧ m.isTruncated := by
  obtain ⟨-, hanswered⟩ := run_limited_shown pointsTable ranking 3 2 { kind := .table }
  obtain ⟨whole, hwhole, -, -, hshown⟩ := hanswered _ rfl
  have hrows : whole.rows.length = 4 := by
    cases hwhole
    rfl
  obtain ⟨m, hm, -, htaken, htotal, htruncated⟩ := hshown (by decide)
  have hlength : m.rows.length ≤ 2 := by
    rw [htaken, List.length_take]
    omega
  refine ⟨_, m, rfl, rfl, hm, htaken, htotal.trans hrows, ?_⟩
  unfold TableModel.isTruncated
  rw [decide_eq_true_iff, htotal, hrows]
  omega

end Table

end Chartboard
