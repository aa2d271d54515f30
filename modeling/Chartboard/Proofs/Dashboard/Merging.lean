import Chartboard.Dashboard.SharedFilters
import Chartboard.Proofs.Json.Agreement
import Chartboard.Proofs.SortedMap.Lookup
import Mathlib.Algebra.Ring.Parity
import Mathlib.Data.List.DropRight
import Mathlib.Data.List.Induction

/-!
# Changes merged one after another

A change is merged into the filter of its own column and leaves all others alone. What a column is
filtered by in the end is therefore decided by the changes of this column: by the last of them where
they replace each other, and by the length of their final run where they toggle. Two equal changes
do not cancel each other wherever they stand; only those at the end of the sequence count.
-/

namespace Chartboard

open Json (Value)

/-- The last value with all values right in front of it that agree with it. -/
def finalRun (values : List Value) : List Value :=
  match values.getLast? with
  | none => []
  | some last => values.dropLast.rtakeWhile (fun v => v.same last) ++ [last]

/-- The values that some changes ask for in one column, in order. -/
def valuesFor (column : String) (deltas : List FilterDelta) : List Value :=
  (deltas.filter fun delta => delta.column = column).map (·.value)

/-- What a column is filtered by after a change, if it is filtered. -/
def MergePolicy.next (policy : MergePolicy) (old : Option Value) (v : Value) : Option Value :=
  match policy with
  | .replace => some v
  | .toggle => if old.any fun u => u.same v then none else some v

/-- Merges some changes into the filters, from the first to the last. -/
def SharedFilters.mergeAll (s : SharedFilters) (policy : MergePolicy) (deltas : List FilterDelta) :
    SharedFilters :=
  deltas.foldl (fun s delta => s.merge policy delta) s

/-! ## Final runs -/

/-- The final run of a longer list is the last value with those in front of it that are the same. -/
theorem finalRun_concat (values : List Value) (v : Value) :
    finalRun (values ++ [v]) = values.rtakeWhile (fun u => u.same v) ++ [v] := by
  unfold finalRun
  rw [List.getLast?_concat, List.dropLast_concat]

/-- A value that agrees with the last one makes the final run longer. -/
theorem finalRun_of_same {values : List Value} {u v : Value} (h : u.same v) :
    finalRun (values ++ [u] ++ [v]) = finalRun (values ++ [u]) ++ [v] := by
  have hagree : (fun w : Value => w.same v) = fun w => w.same u := by
    funext w
    have hthere : w.same v → w.same u := fun hw => Value.same_trans hw (Value.same_symm h)
    have hback : w.same u → w.same v := fun hw => Value.same_trans hw h
    exact Bool.eq_iff_iff.2 ⟨hthere, hback⟩
  rw [finalRun_concat, List.rtakeWhile_concat_pos (fun w : Value => w.same v) values u h,
    finalRun_concat, hagree]

/-- A value that does not agree with the last one begins a new run. -/
theorem finalRun_of_not_same {values : List Value} {u v : Value} (h : ¬u.same v) :
    finalRun (values ++ [u] ++ [v]) = [v] := by
  rw [finalRun_concat, List.rtakeWhile_concat_neg (fun w : Value => w.same v) values u h,
    List.nil_append]

/-- All values of the final run agree with a value exactly if the last one does. -/
theorem same_finalRun {values : List Value} {last v : Value} (h : values.getLast? = some last) :
    (∀ u ∈ finalRun values, u.same v) ↔ last.same v := by
  unfold finalRun
  rw [h]
  constructor
  · intro hall
    exact hall last (List.mem_append_right _ (List.mem_singleton_self last))
  · intro hlast u hu
    rcases List.mem_append.1 hu with hfront | hend
    · have hrun : u.same last :=
        List.mem_rtakeWhile_imp (p := fun w : Value => w.same last) hfront
      exact Value.same_trans hrun hlast
    · rw [List.mem_singleton.1 hend]
      exact hlast

/-- The final run is the end of the list. -/
theorem finalRun_suffix (values : List Value) : finalRun values <:+ values := by
  rcases List.eq_nil_or_concat values with rfl | ⟨front, last, rfl⟩
  · exact List.nil_suffix
  · obtain ⟨earlier, hearlier⟩ := List.rtakeWhile_suffix (fun v : Value => v.same last) front
    rw [List.concat_eq_append, finalRun_concat]
    exact ⟨earlier, by rw [← List.append_assoc, hearlier]⟩

/-- No longer run of values that agree with each other is at the end. -/
theorem length_le_finalRun {values run : List Value} (h : run <:+ values)
    (hsame : ∀ u ∈ run, ∀ w ∈ run, u.same w) : run.length ≤ (finalRun values).length := by
  rcases List.eq_nil_or_concat run with rfl | ⟨front, last, rfl⟩
  · exact Nat.zero_le _
  · rw [List.concat_eq_append] at h hsame ⊢
    obtain ⟨earlier, rfl⟩ := h
    have hfront : ∀ u ∈ front.reverse, u.same last := fun u hu =>
      hsame u (List.mem_append_left _ (List.mem_reverse.1 hu)) last
        (List.mem_append_right _ (List.mem_singleton_self last))
    have htaken : (earlier ++ front).rtakeWhile (fun u => u.same last) =
        earlier.rtakeWhile (fun u => u.same last) ++ front := by
      unfold List.rtakeWhile
      rw [List.reverse_append, List.takeWhile_append_of_pos hfront, List.reverse_append,
        List.reverse_reverse]
    rw [← List.append_assoc, finalRun_concat, htaken]
    simp only [List.length_append]
    omega

/-- Only a sequence with a last value has a final run of odd length. -/
theorem exists_last_of_odd {values : List Value} (h : Odd (finalRun values).length) :
    ∃ last, values.getLast? = some last := by
  cases hvalues : values.getLast? with
  | some last => exact ⟨last, rfl⟩
  | none =>
    have hempty : finalRun values = [] := by rw [finalRun, hvalues]
    rw [hempty] at h
    exact absurd h (by decide)

/-! ## One column -/

/-- Where changes replace each other, the last one stays. -/
theorem foldl_replace (values : List Value) (old : Option Value) :
    values.foldl MergePolicy.replace.next old = values.getLast?.or old := by
  induction values using List.reverseRecOn with
  | nil => rfl
  | append_singleton values v _ =>
    rw [List.foldl_concat, List.getLast?_concat]
    rfl

/-- Where changes toggle, the last one stays exactly if the final run is of odd length. The
induction is on the sequence from its end: a value that agrees with the last one makes the run
longer by one, and finds the column filtered or not as the run was. -/
theorem foldl_toggle (values : List Value) :
    values.foldl MergePolicy.toggle.next none =
      if Odd (finalRun values).length then values.getLast? else none := by
  induction values using List.reverseRecOn with
  | nil => rfl
  | append_singleton values v ih =>
    rw [List.foldl_concat, ih, List.getLast?_concat]
    have hsingle : Odd ([v] : List Value).length := odd_one
    rcases List.eq_nil_or_concat values with rfl | ⟨front, u, rfl⟩
    · rfl
    · rw [List.concat_eq_append] at ih ⊢
      rw [List.getLast?_concat]
      by_cases hsame : u.same v
      · rw [finalRun_of_same hsame, List.length_append, List.length_singleton]
        by_cases hodd : Odd (finalRun (front ++ [u])).length
        · have heven : ¬Odd ((finalRun (front ++ [u])).length + 1) := by
            rw [Nat.odd_add_one, not_not]
            exact hodd
          rw [if_pos hodd, if_neg heven]
          simp [MergePolicy.next, hsame]
        · have hnext : Odd ((finalRun (front ++ [u])).length + 1) := Nat.odd_add_one.2 hodd
          rw [if_neg hodd, if_pos hnext]
          rfl
      · rw [finalRun_of_not_same hsame, if_pos hsingle]
        split
        · simp [MergePolicy.next, hsame]
        · rfl

/-! ## All columns -/

/-- A change is merged into the filter of its column, and the others are as they were. -/
theorem FilterSet.get?_merge (set : FilterSet) (policy : MergePolicy) (delta : FilterDelta)
    (column : String) :
    (set.merge policy delta).get? column =
      if column = delta.column then policy.next (set.get? column) delta.value
      else set.get? column := by
  by_cases hcolumn : column = delta.column
  · subst hcolumn
    rw [if_pos rfl]
    cases policy with
    | replace =>
      show (set.insert delta.column delta.value).get? delta.column = some delta.value
      rw [SortedMap.get?_insert, if_pos rfl]
    | toggle =>
      unfold merge MergePolicy.next
      cases hold : set.get? delta.column with
      | none =>
        simp only [Option.any_none, Bool.false_eq_true, if_false]
        rw [SortedMap.get?_insert, if_pos rfl]
      | some old =>
        simp only [Option.any_some]
        split
        · rw [SortedMap.get?_erase, if_pos rfl]
        · rw [SortedMap.get?_insert, if_pos rfl]
  · rw [if_neg hcolumn]
    have hinsert : (set.insert delta.column delta.value).get? column = set.get? column := by
      rw [SortedMap.get?_insert, if_neg hcolumn]
    have herase : (set.erase delta.column).get? column = set.get? column := by
      rw [SortedMap.get?_erase, if_neg hcolumn]
    cases policy with
    | replace => exact hinsert
    | toggle =>
      unfold merge
      simp only
      split
      · split
        · exact herase
        · exact hinsert
      · exact hinsert

/-- Changes of different columns can be merged in either order. -/
theorem FilterSet.merge_comm (set : FilterSet) (first second : MergePolicy) {d e : FilterDelta}
    (h : d.column ≠ e.column) :
    (set.merge first d).merge second e = (set.merge second e).merge first d := by
  refine SortedMap.ext_get? fun column => ?_
  simp only [get?_merge]
  by_cases hd : column = d.column
  · have he : column ≠ e.column := by rw [hd]; exact h
    rw [if_neg he, if_neg he]
  · rw [if_neg hd, if_neg hd]

namespace SharedFilters

/-- What a column is filtered by after some changes is decided by the changes of this column. -/
theorem get?_mergeAll (s : SharedFilters) (policy : MergePolicy) (deltas : List FilterDelta)
    (column : String) :
    (s.mergeAll policy deltas).filters.get? column =
      (valuesFor column deltas).foldl policy.next (s.filters.get? column) := by
  induction deltas generalizing s with
  | nil => rfl
  | cons delta rest ih =>
    have hfirst : (s.merge policy delta).filters.get? column =
        if column = delta.column then policy.next (s.filters.get? column) delta.value
        else s.filters.get? column := FilterSet.get?_merge s.filters policy delta column
    rw [mergeAll, List.foldl_cons, ← mergeAll, ih, hfirst]
    unfold valuesFor
    by_cases hcolumn : delta.column = column
    · rw [List.filter_cons_of_pos (by simpa using hcolumn), List.map_cons, List.foldl_cons,
        if_pos hcolumn.symm]
    · rw [List.filter_cons_of_neg (by simpa using hcolumn), if_neg fun heq => hcolumn heq.symm]

/-- Merging into one column never shows in another one, so changes of different columns can be
merged in either order. In a column that is not filtered at first, some changes leave what the
changes of this column decide: if they toggle, the column is filtered exactly if their final run,
the longest one of values that agree with each other, is of odd length, and then by the value that
all of the run agree with; if they replace each other, it is filtered by the last of them. -/
theorem merged_by_finalRun {s : SharedFilters} {column : String}
    (h : s.filters.get? column = none) (deltas : List FilterDelta) :
    let values := valuesFor column deltas
    let toggled := (s.mergeAll .toggle deltas).filters.get? column
    let replaced := (s.mergeAll .replace deltas).filters.get? column
    (∀ others, valuesFor column others = values →
      (s.mergeAll .toggle others).filters.get? column = toggled ∧
        (s.mergeAll .replace others).filters.get? column = replaced) ∧
    (finalRun values <:+ values ∧ ∀ run, run <:+ values →
      (∀ u ∈ run, ∀ w ∈ run, u.same w) → run.length ≤ (finalRun values).length) ∧
    (∀ v, (∃ held, toggled = some held ∧ held.same v) ↔
      (∀ u ∈ finalRun values, u.same v) ∧ Odd (finalRun values).length) ∧
    (toggled = none ↔ ¬Odd (finalRun values).length) ∧
    (∀ held, toggled = some held → values.getLast? = some held) ∧
    replaced = values.getLast? ∧
    (∀ (t : SharedFilters) (policy : MergePolicy) (delta : FilterDelta) (other : String),
      other ≠ delta.column → (t.merge policy delta).filters.get? other = t.filters.get? other) ∧
    (∀ (t : SharedFilters) (first second : MergePolicy) (d e : FilterDelta),
      d.column ≠ e.column →
        (t.merge first d).merge second e = (t.merge second e).merge first d) := by
  intro values toggled replaced
  have htoggled : toggled = if Odd (finalRun values).length then values.getLast? else none := by
    have hfold := s.get?_mergeAll .toggle deltas column
    rw [h, foldl_toggle] at hfold
    exact hfold
  have hreplaced : replaced = values.getLast? := by
    have hfold := s.get?_mergeAll .replace deltas column
    rw [h, foldl_replace, Option.or_none] at hfold
    exact hfold
  have hdecided : (∀ v, (∃ held, toggled = some held ∧ held.same v) ↔
      (∀ u ∈ finalRun values, u.same v) ∧ Odd (finalRun values).length) ∧
      (toggled = none ↔ ¬Odd (finalRun values).length) ∧
      ∀ held, toggled = some held → values.getLast? = some held := by
    by_cases hodd : Odd (finalRun values).length
    · obtain ⟨last, hlast⟩ := exists_last_of_odd hodd
      rw [if_pos hodd, hlast] at htoggled
      rw [htoggled, hlast]
      refine ⟨fun v => ?_, iff_of_false nofun fun hnot => hnot hodd, fun held hheld => hheld⟩
      rw [same_finalRun hlast, and_iff_left hodd]
      constructor
      · rintro ⟨held, hheld, hsame⟩
        rw [Option.some.inj hheld]
        exact hsame
      · exact fun hsame => ⟨last, rfl, hsame⟩
    · rw [if_neg hodd] at htoggled
      rw [htoggled]
      exact ⟨fun v => iff_of_false (fun ⟨_, hheld, _⟩ => nomatch hheld) fun hrun => hodd hrun.2,
        iff_of_true rfl hodd, fun held hheld => nomatch hheld⟩
  obtain ⟨hheld, hnone, hlast⟩ := hdecided
  refine ⟨fun others hothers => ?_, ⟨finalRun_suffix values, fun run => length_le_finalRun⟩, hheld,
    hnone, hlast, hreplaced, ?_, ?_⟩
  · constructor
    · rw [get?_mergeAll, hothers]
      exact (s.get?_mergeAll .toggle deltas column).symm
    · rw [get?_mergeAll, hothers]
      exact (s.get?_mergeAll .replace deltas column).symm
  · intro t policy delta other hother
    have hmerge := FilterSet.get?_merge t.filters policy delta other
    rw [if_neg hother] at hmerge
    exact hmerge
  · intro t first second d e hcolumns
    have hsets := FilterSet.merge_comm t.filters first second hcolumns
    exact congrArg t.setFilters hsets

/-- The year is filtered. -/
def yearOnly : SharedFilters where
  filters := SortedMap.ofList [("year", .int 2024)]

/-- Some changes of two columns. -/
def regionsAndProduct : List FilterDelta :=
  [⟨"region", .string "East"⟩, ⟨"region", .string "West"⟩, ⟨"product", .string "Tea"⟩,
    ⟨"region", .string "West"⟩, ⟨"region", .string "West"⟩]

/-- Three toggles of a region leave it selected and two of them leave nothing, while replacing
leaves the last region in any case. -/
theorem merged_by_finalRun_regionsAndProduct :
    yearOnly.filters.get? "region" = none ∧
    (∃ held, (yearOnly.mergeAll .toggle regionsAndProduct).filters.get? "region" = some held ∧
      held.same (.string "West")) ∧
    (yearOnly.mergeAll .toggle regionsAndProduct.dropLast).filters.get? "region" = none ∧
    (yearOnly.mergeAll .replace regionsAndProduct).filters.get? "region" =
      some (.string "West") := by
  have habsent : yearOnly.filters.get? "region" = none := rfl
  obtain ⟨-, -, hheld, -, -, hreplaced, -⟩ := merged_by_finalRun habsent regionsAndProduct
  obtain ⟨-, -, -, hnone, -⟩ := merged_by_finalRun habsent regionsAndProduct.dropLast
  refine ⟨habsent, (hheld (.string "West")).2 ⟨by decide +kernel, by decide +kernel⟩,
    hnone.2 (by decide +kernel), hreplaced⟩

end SharedFilters

end Chartboard
