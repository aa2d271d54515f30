import Chartboard.Proofs.Json.Scalars
import Chartboard.Proofs.Query.RankedRows
import Mathlib.Data.String.Basic
import Mathlib.Order.Compare

/-!
# The comparison of rows

Rows are compared clause by clause, and the comparison says the same of two rows from both sides.
Whether it goes on from one row to the next depends on the cells: two cells that read as numbers are
compared as numbers and any others by their labels, so that a text can lie between the labels of two
numbers that are in another order. Where that is excluded, rows are sorted; where it is not, some of
them are not.
-/

namespace Chartboard

open Json (Value)

/-! ## From both sides -/

/-- Numbers that change places swap the result of their comparison, NaN included. -/
theorem compareNumbers_swap (x y : Float) :
    Value.compareNumbers x y = (Value.compareNumbers y x).swap := by
  have hasymm : x < y → ¬y < x := fun h =>
    Double.not_lt_of_lt (Double.isNaN_of_lt h).1 (Double.isNaN_of_lt h).2 h
  unfold Value.compareNumbers
  by_cases hxy : x < y
  · rw [if_pos hxy, if_neg (hasymm hxy), if_pos hxy]
    rfl
  · rw [if_neg hxy, if_neg hxy]
    split
    · rfl
    · rfl

/-- A number does not come after another one exactly where the other one is not below it. -/
theorem compareNumbers_isLE {x y : Float} : (Value.compareNumbers x y).isLE ↔ ¬y < x := by
  rw [compareNumbers_swap, Ordering.isLE_iff_ne_gt, Ordering.swap_eq_gt, compareNumbers_eq_lt]

/-- Labels are compared as texts. -/
theorem compareLabels_isLE {a b : String} : (compare a b).isLE ↔ a ≤ b := by
  rw [Ordering.isLE_iff_ne_gt, compare_gt_iff_gt]
  exact not_lt

namespace Json.Value.Standing

variable {p q : Standing}

/-- Two standings with numbers are compared by their numbers. -/
theorem order_of_numbers {x y : Float} (hp : p.number? = some x) (hq : q.number? = some y) :
    p.order q = compareNumbers x y := by
  unfold order
  rw [hp, hq]

/-- A standing without a number is compared by its label. -/
theorem order_of_label_left (hp : p.number? = none) : p.order q = compare p.label q.label := by
  unfold order
  rw [hp]

/-- Against a standing without a number the labels are compared. -/
theorem order_of_label_right (hq : q.number? = none) : p.order q = compare p.label q.label := by
  unfold order
  rw [hq]
  cases p.number? <;> rfl

/-- Standings that change places swap the result of their comparison. -/
theorem order_swap (p q : Standing) : p.order q = (q.order p).swap := by
  cases hp : p.number? with
  | none =>
    rw [order_of_label_left hp, order_of_label_right hp]
    exact Std.OrientedOrd.eq_swap
  | some x =>
    cases hq : q.number? with
    | none =>
      rw [order_of_label_left hq, order_of_label_right hq]
      exact Std.OrientedOrd.eq_swap
    | some y =>
      rw [order_of_numbers hp hq, order_of_numbers hq hp]
      exact compareNumbers_swap x y

end Json.Value.Standing

/-- Cells that change places swap the result, whichever way the clause sorts. -/
theorem compareCells_swap (order : SortOrder) (a b : Option Value.Standing) :
    compareCells order a b = (compareCells order b a).swap := by
  cases a with
  | none => cases b <;> rfl
  | some p =>
    cases b with
    | none => rfl
    | some q =>
      have hswap := p.order_swap q
      cases order with
      | asc => exact hswap
      | desc => exact congrArg Ordering.swap hswap

/-- The standing of the cell of a row under a column, unless it is null or there is none. -/
def Row.standing? (column : String) (row : Row) : Option Value.Standing :=
  ((row.get? column).filter (!·.isNull)).map Value.standing

/-- The first clause decides, and the others where it finds no difference. -/
theorem compareRows_cons (clause : SortClause) (clauses : List SortClause) (a b : Row) :
    compareRows (clause :: clauses) a b =
      (compareCells clause.order (Row.standing? clause.column a)
        (Row.standing? clause.column b)).then (compareRows clauses a b) :=
  rfl

/-- Two rows compare the same from both sides. -/
theorem compareRows_swap (clauses : List SortClause) (a b : Row) :
    compareRows clauses a b = (compareRows clauses b a).swap := by
  induction clauses with
  | nil => rfl
  | cons clause rest ih =>
    rw [compareRows_cons, compareRows_cons, Ordering.swap_then, ← ih, ← compareCells_swap]

instance (clauses : List SortClause) : Std.OrientedCmp (compareRows clauses) where
  eq_swap := compareRows_swap clauses _ _

/-! ## Harmony of numbers and labels -/

/-- Characters of numbers are no blanks. -/
theorem Text.not_isBlank_of_isNumeral {c : Char} (h : Decimal.isNumeral c) : isBlank c = false := by
  unfold Decimal.isNumeral at h
  simp only [Bool.or_eq_true, beq_iff_eq, or_assoc] at h
  rcases h with hdigit | rfl | rfl | rfl | rfl
  · exact not_isBlank_of_isDigit hdigit
  all_goals decide

namespace Json

/-- The text of a number reads as a number. -/
theorem Number.isSome_ofText?_text {n : Number} (h : n.isFinite) :
    (Value.string n.text).asNumber?.isSome := by
  have htrim : Text.trim n.text = n.text := by
    apply Text.trim_of_forall
    intro c hc
    exact Text.not_isBlank_of_isNumeral (isNumeral_text h hc)
  show (Double.ofText? (Text.trim n.text)).isSome
  rw [htrim]
  cases n with
  | int i =>
    show (Double.ofText? (toString i)).isSome
    rw [Double.ofText?_toString_int]
    rfl
  | float x =>
    rw [text_float h]
    obtain ⟨d, hd, -⟩ := (floatStyle.writes_body (Decimal.shortest x)).reads
    unfold Double.ofText?
    rw [floatStyle.splitSign_render]
    simp only [hd]
    rfl

namespace Value

variable {v w : Value}

/-- The label of a number is the text that it is written as. -/
theorem label_number (n : Number) : (number n).label = n.text := by
  show String.ofList (chars (number n)) = n.text
  rw [chars, String.ofList_toList]

/-- A cell whose label reads as a number reads as a number itself, and the other way round. -/
theorem isSome_asNumber?_label (h : v.isScalar) :
    (string v.label).asNumber?.isSome = v.asNumber?.isSome := by
  cases v with
  | string s => rfl
  | number n =>
    have hlabel : (number n).label = n.text := label_number n
    rw [hlabel, Number.isSome_ofText?_text h]
    rfl
  | null => rfl
  | bool b => cases b <;> rfl
  | array items => cases h
  | object members => cases h

/-- A cell that reads as a number and one that does not have different labels. -/
theorem label_ne_label (hv : v.isScalar) (hw : w.isScalar) {x : Float}
    (hx : v.asNumber? = some x) (hnone : w.asNumber? = none) : v.label ≠ w.label := by
  intro h
  have hsome := isSome_asNumber?_label hv
  rw [h, isSome_asNumber?_label hw, hx, hnone] at hsome
  cases hsome

/-- The order of some cells goes on from one to the next. -/
def IsTransitive (cells : List Value) : Prop :=
  ∀ v ∈ cells, ∀ w ∈ cells, ∀ u ∈ cells, (v.standing.order w.standing).isLE →
    (w.standing.order u.standing).isLE → (v.standing.order u.standing).isLE

/-- Numbers among some cells and the labels of the cells get along with each other. -/
structure IsHarmonious (cells : List Value) : Prop where
  /-- Two numbers are in the order of their labels where the label of a cell that is no number lies
  between theirs. -/
  apart : ∀ v ∈ cells, ∀ w ∈ cells, ∀ u ∈ cells, ∀ x y, v.asNumber? = some x →
    w.asNumber? = some y → u.asNumber? = none → v.label < u.label → u.label < w.label → x < y
  /-- All numbers are tied where one of them is what is not a number. -/
  tied : ∀ v ∈ cells, ∀ w ∈ cells, ∀ u ∈ cells, ∀ x y z, v.asNumber? = some x →
    w.asNumber? = some y → u.asNumber? = some z → z.isNaN → ¬x < y

variable {cells : List Value}

/-- Cells with a transitive order are in harmony. -/
theorem IsTransitive.isHarmonious (h : IsTransitive cells) : IsHarmonious cells where
  apart v hv w hw u hu x y hx hy hnone hvu huw := by
    by_contra hnot
    have hwv : (w.standing.order v.standing).isLE := by
      rw [Standing.order_of_numbers hy hx, compareNumbers_isLE]
      exact hnot
    have hvu' : (v.standing.order u.standing).isLE := by
      rw [Standing.order_of_label_right hnone, compareLabels_isLE]
      exact hvu.le
    have hwu := h w hw v hv u hu hwv hvu'
    rw [Standing.order_of_label_right hnone, compareLabels_isLE] at hwu
    exact absurd huw hwu.not_gt
  tied v hv w hw u hu x y z hx hy hz hnan hlt := by
    have hties : ∀ a : Float, ¬z < a ∧ ¬a < z := by
      intro a
      refine ⟨fun hless => ?_, fun hless => ?_⟩
      · rw [(Double.isNaN_of_lt hless).1] at hnan
        cases hnan
      · rw [(Double.isNaN_of_lt hless).2] at hnan
        cases hnan
    have hwu : (w.standing.order u.standing).isLE := by
      rw [Standing.order_of_numbers hy hz, compareNumbers_isLE]
      exact (hties y).1
    have huv : (u.standing.order v.standing).isLE := by
      rw [Standing.order_of_numbers hz hx, compareNumbers_isLE]
      exact (hties x).2
    have hwv := h w hw u hu v hv hwu huv
    rw [Standing.order_of_numbers hy hx, compareNumbers_isLE] at hwv
    exact hwv hlt

/-- Numbers that all compare, or are all tied, go on from one to the next. -/
theorem IsHarmonious.not_lt_trans (h : IsHarmonious cells) {v w u : Value} (hv : v ∈ cells)
    (hw : w ∈ cells) (hu : u ∈ cells) {x y z : Float} (hx : v.asNumber? = some x)
    (hy : w.asNumber? = some y) (hz : u.asNumber? = some z) (hxy : ¬y < x) (hyz : ¬z < y) :
    ¬z < x := by
  intro hlt
  obtain ⟨hnz, hnx⟩ := Double.isNaN_of_lt hlt
  by_cases hny : y.isNaN
  · exact h.tied u hu v hv w hw z x y hz hx hy hny hlt
  · rw [Bool.not_eq_true] at hny
    rw [Double.lt_iff_not_le hny hnx, not_not] at hxy
    rw [Double.lt_iff_not_le hnz hny, not_not] at hyz
    have hxz := Double.trans hnx hny hnz hxy hyz
    exact (Double.lt_iff_not_le hnz hnx).1 hlt hxz

/-- Scalar cells in harmony have a transitive order. -/
theorem IsHarmonious.isTransitive (h : IsHarmonious cells) (hscalar : ∀ v ∈ cells, v.isScalar) :
    IsTransitive cells := by
  intro v hv w hw u hu hvw hwu
  -- a label that is not above another one is below it where one of the two is that of a number
  have hbelow : ∀ {a b : Value}, a ∈ cells → b ∈ cells → ∀ {x}, a.asNumber? = some x →
      b.asNumber? = none → a.label ≠ b.label := fun ha hb _ hx hnone =>
    label_ne_label (hscalar _ ha) (hscalar _ hb) hx hnone
  cases hx : v.asNumber? with
  | none =>
    rw [Standing.order_of_label_left hx, compareLabels_isLE] at hvw ⊢
    cases hz : u.asNumber? with
    | none =>
      rw [Standing.order_of_label_right hz, compareLabels_isLE] at hwu
      exact hvw.trans hwu
    | some z =>
      cases hy : w.asNumber? with
      | none =>
        rw [Standing.order_of_label_left hy, compareLabels_isLE] at hwu
        exact hvw.trans hwu
      | some y =>
        rw [Standing.order_of_numbers hy hz, compareNumbers_isLE] at hwu
        by_contra hnot
        have huv : u.label < v.label := not_le.1 hnot
        have hvw' : v.label < w.label := lt_of_le_of_ne hvw (hbelow hw hv hy hx).symm
        exact hwu (h.apart u hu w hw v hv z y hz hy hx huv hvw')
  | some x =>
    cases hy : w.asNumber? with
    | none =>
      rw [Standing.order_of_label_right hy, compareLabels_isLE] at hvw
      rw [Standing.order_of_label_left hy, compareLabels_isLE] at hwu
      cases hz : u.asNumber? with
      | none =>
        rw [Standing.order_of_label_right hz, compareLabels_isLE]
        exact hvw.trans hwu
      | some z =>
        have hvw' : v.label < w.label := lt_of_le_of_ne hvw (hbelow hv hw hx hy)
        have hwu' : w.label < u.label := lt_of_le_of_ne hwu (hbelow hu hw hz hy).symm
        have hlt := h.apart v hv u hu w hw x z hx hz hy hvw' hwu'
        rw [Standing.order_of_numbers hx hz, compareNumbers_isLE]
        exact Double.not_lt_of_lt (Double.isNaN_of_lt hlt).1 (Double.isNaN_of_lt hlt).2 hlt
    | some y =>
      rw [Standing.order_of_numbers hx hy, compareNumbers_isLE] at hvw
      cases hz : u.asNumber? with
      | none =>
        rw [Standing.order_of_label_right hz, compareLabels_isLE] at hwu ⊢
        by_contra hnot
        have huv : u.label < v.label := not_le.1 hnot
        have hwu' : w.label < u.label := lt_of_le_of_ne hwu (hbelow hw hu hy hz)
        exact hvw (h.apart w hw v hv u hu y x hy hx hz hwu' huv)
      | some z =>
        rw [Standing.order_of_numbers hy hz, compareNumbers_isLE] at hwu
        rw [Standing.order_of_numbers hx hz, compareNumbers_isLE]
        exact h.not_lt_trans hv hw hu hx hy hz hvw hwu

end Value

end Json

end Chartboard
