import Chartboard.Proofs.Query.Comparison

/-!
# Rows that can be sorted

The comparison of rows is transitive for every list of sort clauses exactly where the cells under
each column are in harmony, and exactly there every selection of the rows comes out sorted.
-/

namespace Chartboard

open Json (Value)

/-! ## Cells in rows -/

/-- The cells of some rows under a column that are not null. -/
def cellsUnder (column : String) (rows : List Row) : List Value :=
  (rows.filterMap fun row => row.get? column).filter (!·.isNull)

variable {rows : List Row} {column : String}

/-- The cells under a column are those of the rows that are not null. -/
theorem mem_cellsUnder {v : Value} :
    v ∈ cellsUnder column rows ↔ v.isNull = false ∧ ∃ row ∈ rows, row.get? column = some v := by
  unfold cellsUnder
  rw [List.mem_filter, List.mem_filterMap, and_comm, Bool.not_eq_true']

/-- A cell that is not null has its own standing. -/
theorem Row.standing?_of_get? {row : Row} {v : Value} (h : row.get? column = some v)
    (hnull : v.isNull = false) : Row.standing? column row = some v.standing := by
  unfold standing?
  rw [h, Option.filter_some, hnull]
  rfl

/-- The standing of a row is that of one of the cells under the column. -/
theorem Row.exists_of_standing? {row : Row} {p : Value.Standing} (hrow : row ∈ rows)
    (h : Row.standing? column row = some p) : ∃ v ∈ cellsUnder column rows, v.standing = p := by
  unfold standing? at h
  rw [Option.map_eq_some_iff] at h
  obtain ⟨v, hv, hp⟩ := h
  rw [Option.filter_eq_some_iff, Bool.not_eq_true'] at hv
  exact ⟨v, mem_cellsUnder.2 ⟨hv.2, row, hrow, hv.1⟩, hp⟩

/-- Null at the end keeps an order of cells transitive, and so does the other direction. -/
theorem compareCells_trans (h : Value.IsTransitive (cellsUnder column rows)) (order : SortOrder)
    {a b c : Row} (ha : a ∈ rows) (hb : b ∈ rows) (hc : c ∈ rows)
    (hab : (compareCells order (a.standing? column) (b.standing? column)).isLE)
    (hbc : (compareCells order (b.standing? column) (c.standing? column)).isLE) :
    (compareCells order (a.standing? column) (c.standing? column)).isLE := by
  cases hp : Row.standing? column a with
  | none =>
    cases hq : Row.standing? column b with
    | none =>
      rw [hq] at hbc
      exact hbc
    | some q =>
      rw [hp, hq] at hab
      cases hab
  | some p =>
    cases hr : Row.standing? column c with
    | none => rfl
    | some r =>
      cases hq : Row.standing? column b with
      | none =>
        rw [hq, hr] at hbc
        cases hbc
      | some q =>
        rw [hp, hq] at hab
        rw [hq, hr] at hbc
        obtain ⟨v, hv, rfl⟩ := Row.exists_of_standing? ha hp
        obtain ⟨w, hw, rfl⟩ := Row.exists_of_standing? hb hq
        obtain ⟨u, hu, rfl⟩ := Row.exists_of_standing? hc hr
        cases order with
        | asc => exact h v hv w hw u hu hab hbc
        | desc =>
          have hback : ∀ p q : Value.Standing, (compareCells .desc (some p) (some q)).isLE =
              (q.order p).isLE := fun p q => congrArg Ordering.isLE (q.order_swap p).symm
          rw [hback] at hab hbc ⊢
          exact h u hu w hw v hv hbc hab

/-! ## Clauses -/

/-- The comparison of some rows under some clauses. -/
def compareAmong (rows : List Row) (clauses : List SortClause) (a b : {row // row ∈ rows}) :
    Ordering :=
  compareRows clauses a.1 b.1

/-- The comparison of some rows under one clause. -/
def compareUnder (rows : List Row) (clause : SortClause) (a b : {row // row ∈ rows}) : Ordering :=
  compareCells clause.order (a.1.standing? clause.column) (b.1.standing? clause.column)

/-- One clause compares rows transitively where it compares the cells so. -/
theorem transCmp_compareUnder {clause : SortClause}
    (h : Value.IsTransitive (cellsUnder clause.column rows)) :
    Std.TransCmp (compareUnder rows clause) where
  eq_swap := compareCells_swap _ _ _
  isLE_trans {a b c} hab hbc := compareCells_trans h clause.order a.2 b.2 c.2 hab hbc

/-- Clauses decide one after the other, and each by a transitive order. -/
theorem transCmp_compareAmong {clauses : List SortClause}
    (h : ∀ c ∈ clauses, Value.IsTransitive (cellsUnder c.column rows)) :
    Std.TransCmp (compareAmong rows clauses) := by
  induction clauses with
  | nil => exact { eq_swap := rfl, isLE_trans := fun _ _ => rfl }
  | cons clause rest ih =>
    have hfirst := transCmp_compareUnder (h clause List.mem_cons_self)
    have hrest := ih fun c hc => h c (List.mem_cons_of_mem clause hc)
    exact inferInstanceAs
      (Std.TransCmp (compareLex (compareUnder rows clause) (compareAmong rows rest)))

/-- One clause compares rows with cells under its column as the cells. -/
theorem compareRows_singleton {v w : Value} {a b : Row} (ha : a.get? column = some v)
    (hv : v.isNull = false) (hb : b.get? column = some w) (hw : w.isNull = false) :
    compareRows [⟨column, .asc⟩] a b = v.standing.order w.standing := by
  rw [compareRows_cons, Row.standing?_of_get? ha hv, Row.standing?_of_get? hb hw]
  exact Ordering.then_eq

/-- The cells are compared transitively where the rows are. -/
theorem isTransitive_of_transCmp (h : Std.TransCmp (compareAmong rows [⟨column, .asc⟩])) :
    Value.IsTransitive (cellsUnder column rows) := by
  intro v hv w hw u hu hvw hwu
  obtain ⟨hv, a, ha, hva⟩ := mem_cellsUnder.1 hv
  obtain ⟨hw, b, hb, hwb⟩ := mem_cellsUnder.1 hw
  obtain ⟨hu, c, hc, huc⟩ := mem_cellsUnder.1 hu
  rw [← compareRows_singleton hva hv hwb hw] at hvw
  rw [← compareRows_singleton hwb hw huc hu] at hwu
  rw [← compareRows_singleton hva hv huc hu]
  exact @h.isLE_trans ⟨a, ha⟩ ⟨b, hb⟩ ⟨c, hc⟩ hvw hwu

/-! ## Sorted rows -/

/-- The clauses that take part in sorting some rows: those about columns of the first one. -/
def activeClauses (clauses : List SortClause) : List Row → List SortClause
  | [] => []
  | first :: _ => clauses.filter fun c => first.contains c.column

/-- Rows are sorted by what the active clauses say of them, worked out once for each row. -/
theorem sortRows_eq (clauses : List SortClause) (rows : List Row) :
    sortRows clauses rows =
      (StableSort.sort
        (fun a b => compareStandings ((activeClauses clauses rows).map (·.order)) a.1 b.1 = .lt)
        (rows.map fun row => (standings (activeClauses clauses rows) row, row))).map
        (List.map (·.2)) := by
  cases rows with
  | nil => rfl
  | cons first rest => rfl

/-- The clauses that play a part are among those of the request. -/
theorem mem_of_mem_activeClauses {clauses : List SortClause} {c : SortClause}
    (h : c ∈ activeClauses clauses rows) : c ∈ clauses := by
  cases rows with
  | nil => cases h
  | cons first rest => exact List.mem_of_mem_filter h

variable {clauses : List SortClause} {chosen : List Row}

/-- A transitive comparison ranks the rows that are sorted by it. -/
theorem ranks_compareRows (hchosen : ∀ row ∈ chosen, row ∈ rows)
    (h : Std.TransCmp (compareAmong rows clauses)) :
    StableSort.Ranks (fun a b => compareStandings (clauses.map (·.order)) a.1 b.1 = .lt)
      (fun a b => (compareRows clauses a.2 b.2).isLE)
      (chosen.map fun row => (standings clauses row, row)) where
  total x hx y hy := by
    have hswap := compareRows_swap clauses x.2 y.2
    cases hyx : compareRows clauses y.2 x.2 with
    | gt =>
      rw [hyx] at hswap
      rw [hswap]
      exact Or.inl rfl
    | lt => exact Or.inr rfl
    | eq => exact Or.inr rfl
  trans x hx y hy z hz hxy hyz := by
    obtain ⟨a, ha, rfl⟩ := List.mem_map.1 hx
    obtain ⟨b, hb, rfl⟩ := List.mem_map.1 hy
    obtain ⟨c, hc, rfl⟩ := List.mem_map.1 hz
    exact @h.isLE_trans ⟨a, hchosen a ha⟩ ⟨b, hchosen b hb⟩ ⟨c, hchosen c hc⟩ hxy hyz
  less_iff x hx y hy := by
    obtain ⟨a, ha, rfl⟩ := List.mem_map.1 hx
    obtain ⟨b, hb, rfl⟩ := List.mem_map.1 hy
    have hswap := compareRows_swap clauses b a
    rw [hswap, Ordering.isLE_iff_ne_gt, Ordering.swap_eq_gt, not_not, decide_eq_true_iff]
    exact Iff.rfl

/-- Rows that are ranked by the clauses that take part can be sorted, and they come out in their
order. -/
theorem pairwise_sortRows (hchosen : ∀ row ∈ chosen, row ∈ rows)
    (h : Std.TransCmp (compareAmong rows (activeClauses clauses chosen))) :
    ∃ sorted, sortRows clauses chosen = some sorted ∧
      sorted.Pairwise fun a b => compareRows (activeClauses clauses chosen) a b ≠ .gt := by
  have hranks := ranks_compareRows hchosen h
  refine ⟨_, by rw [sortRows_eq, StableSort.sort_eq_byInsertion hranks, Option.map_some], ?_⟩
  rw [List.pairwise_map]
  exact (StableSort.byInsertion_sorted hranks).imp fun hle => Ordering.isLE_iff_ne_gt.1 hle

/-- Rows of which none is less than the one in front stay as they are, even where the last of them
is less than the first. -/
theorem sortRows_of_isChain (hlength : chosen.length ≤ StableSort.insertionLength)
    (h : chosen.IsChain fun a b => (compareRows (activeClauses clauses chosen) a b).isLE) :
    sortRows clauses chosen = some chosen := by
  have hchain : (chosen.map fun row => (standings (activeClauses clauses chosen) row, row)).IsChain
      fun x y => decide (compareStandings ((activeClauses clauses chosen).map (·.order)) y.1 x.1 =
        .lt) = false := by
    rw [List.isChain_map]
    refine h.imp fun a b hle => ?_
    rw [compareRows_swap, Ordering.isLE_iff_ne_gt, Ordering.swap_eq_gt] at hle
    exact decide_eq_false hle
  rw [sortRows_eq, StableSort.sort_of_length_le (by rwa [List.length_map]),
    StableSort.byInsertion_of_isChain hchain, Option.map_some, List.map_map]
  exact congrArg some (List.map_id _)

/-- Three rows that are compared in a circle are sorted into one of its orders. -/
theorem isTransitive_of_pairwise
    (h : ∀ chosen : List Row, (∀ row ∈ chosen, row ∈ rows) →
      ∃ sorted, sortRows [⟨column, .asc⟩] chosen = some sorted ∧
        sorted.Pairwise fun a b =>
          compareRows (activeClauses [⟨column, .asc⟩] chosen) a b ≠ .gt) :
    Value.IsTransitive (cellsUnder column rows) := by
  intro v hv w hw u hu hvw hwu
  obtain ⟨hv, a, ha, hva⟩ := mem_cellsUnder.1 hv
  obtain ⟨hw, b, hb, hwb⟩ := mem_cellsUnder.1 hw
  obtain ⟨hu, c, hc, huc⟩ := mem_cellsUnder.1 hu
  have hactive : activeClauses [⟨column, .asc⟩] [a, b, c] = [⟨column, .asc⟩] := by
    have hkey := Ledger.mem_keys_iff.2 ⟨v, hva⟩
    have hcontains : a.contains column = true := Ledger.contains_iff.2 hkey
    exact List.filter_cons_of_pos (p := fun c : SortClause => a.contains c.column) hcontains
  have hmem : ∀ row ∈ [a, b, c], row ∈ rows := by
    simp only [List.forall_mem_cons]
    exact ⟨ha, hb, hc, fun _ hrow => nomatch hrow⟩
  have hlength : 3 ≤ StableSort.insertionLength := by decide
  have hkept : sortRows [⟨column, .asc⟩] [a, b, c] = some [a, b, c] := by
    refine sortRows_of_isChain hlength ?_
    rw [hactive, List.isChain_cons_cons, List.isChain_cons_cons,
      compareRows_singleton hva hv hwb hw, compareRows_singleton hwb hw huc hu]
    exact ⟨hvw, hwu, List.isChain_singleton c⟩
  obtain ⟨sorted, hresult, hsorted⟩ := h [a, b, c] hmem
  rw [hkept, Option.some.injEq] at hresult
  rw [← hresult, hactive] at hsorted
  have hac := List.rel_of_pairwise_cons hsorted (List.mem_cons_of_mem b (List.mem_singleton_self c))
  rw [compareRows_singleton hva hv huc hu] at hac
  exact Ordering.isLE_iff_ne_gt.2 hac

/-- The comparison of rows says the same from both sides, and ties a row with itself. It is
transitive for all clauses about some columns exactly where the cells under each of them are in
harmony, and exactly then all rows can be sorted without one in front of another one that is
less. -/
theorem compareRows_ranks_iff {columns : List String}
    (hscalar : ∀ column ∈ columns, ∀ v ∈ cellsUnder column rows, v.isScalar) :
    (∀ clauses a b, compareRows clauses a b = (compareRows clauses b a).swap) ∧
    (∀ clauses a, compareRows clauses a a = .eq) ∧
    ((∀ clauses : List SortClause, (∀ c ∈ clauses, c.column ∈ columns) →
        Std.TransCmp fun a b : {row // row ∈ rows} => compareRows clauses a.1 b.1) ↔
      ∀ column ∈ columns, Value.IsHarmonious (cellsUnder column rows)) ∧
    ((∀ clauses : List SortClause, (∀ c ∈ clauses, c.column ∈ columns) →
        ∀ chosen : List Row, (∀ row ∈ chosen, row ∈ rows) →
          ∃ sorted, sortRows clauses chosen = some sorted ∧
            sorted.Pairwise fun a b => compareRows (activeClauses clauses chosen) a b ≠ .gt) ↔
      ∀ column ∈ columns, Value.IsHarmonious (cellsUnder column rows)) := by
  have htransitive : (∀ column ∈ columns, Value.IsHarmonious (cellsUnder column rows)) →
      ∀ clauses : List SortClause, (∀ c ∈ clauses, c.column ∈ columns) →
        Std.TransCmp (compareAmong rows clauses) := by
    intro hharmony clauses hcolumns
    refine transCmp_compareAmong fun c hc => ?_
    exact (hharmony _ (hcolumns c hc)).isTransitive (hscalar _ (hcolumns c hc))
  have hone : ∀ {column : String}, column ∈ columns →
      ∀ c ∈ [(⟨column, .asc⟩ : SortClause)], c.column ∈ columns := by
    intro column hcolumn c hc
    rw [List.mem_singleton.1 hc]
    exact hcolumn
  refine ⟨compareRows_swap, fun clauses a => Std.ReflCmp.compare_self, ⟨?_, htransitive⟩, ?_, ?_⟩
  · intro h column hcolumn
    exact (isTransitive_of_transCmp (h _ (hone hcolumn))).isHarmonious
  · intro h column hcolumn
    exact (isTransitive_of_pairwise (h _ (hone hcolumn))).isHarmonious
  · intro hharmony clauses hcolumns chosen hchosen
    refine pairwise_sortRows hchosen (htransitive hharmony _ fun c hc => ?_)
    exact hcolumns c (mem_of_mem_activeClauses hc)

/-! ## Grades and codes -/

/-- Grades, most of which are numbers. -/
def gradeRows : List Row :=
  [.ofList [("grade", .string "10")], .ofList [("grade", .string "n/a")],
   .ofList [("grade", .null)], .ofList [("grade", .string "7")]]

/-- The grades are in harmony. -/
theorem isHarmonious_gradeRows : Value.IsHarmonious (cellsUnder "grade" gradeRows) := by
  have hcells : cellsUnder "grade" gradeRows = [.string "10", .string "n/a", .string "7"] := rfl
  have hbehind : ∀ u ∈ cellsUnder "grade" gradeRows, u.asNumber? = none →
      ∀ w ∈ cellsUnder "grade" gradeRows, ¬u.label < w.label := by
    rw [hcells]
    decide +kernel
  have hnumbers : ∀ u ∈ cellsUnder "grade" gradeRows, u.asNumber?.all (!·.isNaN) := by
    rw [hcells]
    decide +kernel
  refine ⟨fun v _ w hw u hu x y _ _ hnone _ hlt => ?_, fun v _ w _ u hu x y z _ _ hz hnan => ?_⟩
  · exact absurd hlt (hbehind u hu hnone w hw)
  · have hnumber := hnumbers u hu
    rw [hz, Option.all_some, hnan] at hnumber
    cases hnumber

/-- A text behind all numbers leaves them in their order, in whatever order the rows are given. -/
theorem compareRows_ranks_iff_gradeRows :
    (∀ column ∈ ["grade"], ∀ v ∈ cellsUnder column gradeRows, v.isScalar) ∧
    ∀ clauses : List SortClause, (∀ c ∈ clauses, c.column ∈ ["grade"]) →
      ∀ chosen : List Row, (∀ row ∈ chosen, row ∈ gradeRows) →
        ∃ sorted, sortRows clauses chosen = some sorted ∧
          sorted.Pairwise fun a b => compareRows (activeClauses clauses chosen) a b ≠ .gt := by
  have hscalar : ∀ column ∈ ["grade"], ∀ v ∈ cellsUnder column gradeRows, v.isScalar := by decide
  refine ⟨hscalar, (compareRows_ranks_iff hscalar).2.2.2.2 ?_⟩
  intro column hcolumn
  rw [List.mem_singleton.1 hcolumn]
  exact isHarmonious_gradeRows

/-- Codes of which two are one number. -/
def codeTable : Table where
  columns := [⟨"code", .text⟩]
  records := [[.text "1.0"], [.text "1"], [.text "1.%"]]

/-- The codes in their order. -/
def codesInOrder : Request where
  sortBy := [⟨"code", .asc⟩]

/-- A code that is no number comes behind one of the two that are tied and in front of the other, so
that the first row of the answer is greater than the last one. -/
theorem not_sorted_codes :
    ∃ first second third : Row,
      codeTable.run codesInOrder =
        .ok { rows := [first, second, third], totalRows := some 3, columns := ["code"] } ∧
      first.get? "code" = some (.string "1.0") ∧ second.get? "code" = some (.string "1") ∧
      third.get? "code" = some (.string "1.%") ∧
      compareRows codesInOrder.sortBy first second = .eq ∧
      compareRows codesInOrder.sortBy second third = .lt ∧
      compareRows codesInOrder.sortBy first third = .gt := by
  refine ⟨.ofList [("code", .string "1.0")], .ofList [("code", .string "1")],
    .ofList [("code", .string "1.%")], rfl, rfl, rfl, rfl, ?_, ?_, ?_⟩
  all_goals decide +kernel

end Chartboard
