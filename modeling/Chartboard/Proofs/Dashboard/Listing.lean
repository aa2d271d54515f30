import Chartboard.Proofs.Dashboard.Saves
import Mathlib.Data.List.Perm.Basic

/-!
# The order of listed dashboards

A store lists its dashboards by the time of their last saves, the latest first. Saves at one time
are told apart by the places of their identifiers, and an identifier keeps its place when it is
saved again. So the list is in the order of the last saves exactly if of any two saves at one time
the later one is of the identifier that was created later.
-/

namespace Chartboard

/-! ## Sorting by time -/

namespace Summary

/-- One summary is listed ahead of another: it was saved later, or at the same time and a relation
says so. -/
def Ahead (tie : Summary → Summary → Prop) (a b : Summary) : Prop :=
  b.savedAt < a.savedAt ∨ a.savedAt = b.savedAt ∧ tie a b

variable {tie : Summary → Summary → Prop} {a b : Summary}

/-- A summary that is ahead was not saved earlier. -/
theorem Ahead.savedAt_le (h : Ahead tie a b) : b.savedAt ≤ a.savedAt := by
  rcases h with hlt | ⟨heq, -⟩
  · exact Nat.le_of_lt hlt
  · exact Nat.le_of_eq heq.symm

end Summary

namespace Store

open Summary (Ahead)

variable {tie : Summary → Summary → Prop}

/-- Inserting adds the one summary. -/
theorem insertSummary_perm (summary : Summary) (sorted : List Summary) :
    (insertSummary summary sorted).Perm (summary :: sorted) := by
  induction sorted with
  | nil => exact List.Perm.refl _
  | cons first rest ih =>
    rw [insertSummary]
    split
    · exact List.Perm.refl _
    · exact (ih.cons first).trans (List.Perm.swap summary first rest)

/-- A summary that loses every tie takes its place behind all that were not saved before it. -/
theorem pairwise_insertSummary {summary : Summary} {sorted : List Summary}
    (hsorted : sorted.Pairwise (Ahead tie)) (htie : ∀ other ∈ sorted, tie other summary) :
    (insertSummary summary sorted).Pairwise (Ahead tie) := by
  induction sorted with
  | nil => exact List.pairwise_singleton _ _
  | cons first rest ih =>
    obtain ⟨hfirst, hrest⟩ := List.pairwise_cons.1 hsorted
    rw [insertSummary]
    split
    · next hlater =>
      refine List.pairwise_cons.2 ⟨fun other hother => .inl ?_, hsorted⟩
      rcases List.mem_cons.1 hother with rfl | hother
      · exact hlater
      · exact (hfirst other hother).savedAt_le.trans_lt hlater
    · next hearlier =>
      have htail := ih hrest fun other hother => htie other (List.mem_cons_of_mem _ hother)
      refine List.pairwise_cons.2 ⟨fun other hother => ?_, htail⟩
      rcases List.mem_cons.1 ((insertSummary_perm summary rest).subset hother) with rfl | hother
      · have hle : other.savedAt ≤ first.savedAt := Nat.le_of_not_lt hearlier
        rcases Nat.lt_or_eq_of_le hle with hlt | heq
        · exact .inl hlt
        · exact .inr ⟨heq.symm, htie first List.mem_cons_self⟩
      · exact hfirst other hother

/-- Inserting one by one adds all summaries. -/
theorem foldl_insertSummary_perm (summaries sorted : List Summary) :
    (summaries.foldl (fun sorted summary => insertSummary summary sorted) sorted).Perm
      (sorted ++ summaries) := by
  induction summaries generalizing sorted with
  | nil => rw [List.foldl_nil, List.append_nil]
  | cons summary rest ih =>
    have hinsert := (insertSummary_perm summary sorted).append_right rest
    exact ((ih _).trans hinsert).trans List.perm_middle.symm

/-- Inserting one by one keeps the list in order, where ties say so of those that come later. -/
theorem pairwise_foldl_insertSummary {summaries sorted : List Summary}
    (hsorted : sorted.Pairwise (Ahead tie)) (hsummaries : summaries.Pairwise tie)
    (htie : ∀ a ∈ sorted, ∀ b ∈ summaries, tie a b) :
    (summaries.foldl (fun sorted summary => insertSummary summary sorted) sorted).Pairwise
      (Ahead tie) := by
  induction summaries generalizing sorted with
  | nil => exact hsorted
  | cons summary rest ih =>
    obtain ⟨hsummary, hrest⟩ := List.pairwise_cons.1 hsummaries
    refine ih (pairwise_insertSummary hsorted fun a ha => htie a ha summary List.mem_cons_self)
      hrest fun a ha b hb => ?_
    rcases List.mem_cons.1 ((insertSummary_perm summary sorted).subset ha) with rfl | ha
    · exact hsummary b hb
    · exact htie a ha b (List.mem_cons_of_mem _ hb)

/-- The summaries of a store in the order in which their identifiers first came. -/
def summaries (s : Store) : List Summary :=
  s.dashboards.entries.map fun entry => entry.2.summary

/-- The list holds the summaries of all dashboards. -/
theorem list_perm (s : Store) : s.list.Perm s.summaries :=
  (foldl_insertSummary_perm s.summaries.reverse []).trans (List.reverse_perm _)

/-- Of equal times, what comes behind in the store is listed ahead. -/
theorem pairwise_list {s : Store} (h : s.summaries.Pairwise fun a b => tie b a) :
    s.list.Pairwise (Ahead tie) :=
  pairwise_foldl_insertSummary .nil (List.pairwise_reverse.2 h) nofun

end Store

/-! ## Identifiers by their creation -/

/-- The identifiers after one more call: one that is saved and was not there comes last. -/
def StoreCall.create (ids : List Uuid) : StoreCall → List Uuid
  | save _ fresh d => if d.id.getD fresh ∈ ids then ids else ids ++ [d.id.getD fresh]
  | load _ => ids
  | delete id => ids.filter (· ≠ id)

/-- The identifiers that a run of calls leaves, in the order in which they were created. -/
def created (calls : List StoreCall) : List Uuid :=
  calls.foldl StoreCall.create []

namespace Store

/-- A call changes the order of the identifiers as it changes that of their creation. -/
theorem keys_perform (s : Store) (call : StoreCall) :
    (s.perform call).1.dashboards.keys = call.create s.dashboards.keys := by
  cases call with
  | save now fresh d => exact Ledger.keys_insert _ _ _
  | load id => rfl
  | delete id =>
    by_cases hmem : id ∈ s.dashboards.keys
    · rw [delete_of_mem hmem]
      show (s.dashboards.entries.filter _).map Prod.fst =
        (s.dashboards.entries.map Prod.fst).filter _
      rw [List.filter_map]
      rfl
    · rw [delete_of_not_mem hmem]
      refine (List.filter_eq_self.2 fun other hother => decide_eq_true ?_).symm
      rintro rfl
      exact hmem hother

/-- The places in a store are those of the creation of the identifiers. -/
theorem keys_after (calls : List StoreCall) : (after calls).dashboards.keys = created calls := by
  induction calls using List.reverseRecOn with
  | nil => rfl
  | append_singleton calls call ih =>
    rw [after_append, keys_perform, ih, created, created, List.foldl_append]
    rfl

/-- No identifier is created twice without having been taken away. -/
theorem nodup_created (calls : List StoreCall) : (created calls).Nodup := by
  rw [← keys_after]
  exact (after calls).dashboards.nodup_keys

end Store

/-! ## Saves that are kept -/

/-- The saves of a run of calls whose identifier no later call saves or takes away, in the order in
which they were made. -/
def kept : List StoreCall → List Saved
  | [] => []
  | call :: rest =>
    match call.saved? with
    | some saved =>
      if ∃ later ∈ rest, later.target? = some saved.id then kept rest else saved :: kept rest
    | none => kept rest

/-- The saves that are kept come in the order of the calls. -/
theorem kept_sublist (calls : List StoreCall) :
    (kept calls).Sublist (calls.filterMap StoreCall.saved?) := by
  induction calls with
  | nil => exact List.Sublist.refl []
  | cons call rest ih =>
    rw [kept, List.filterMap_cons]
    cases call.saved? with
    | none => exact ih
    | some saved =>
      dsimp only
      split
      · exact ih.cons saved
      · exact ih.cons_cons saved

/-- A call leaves the saves of other identifiers, and adds its own. -/
theorem kept_append (calls : List StoreCall) (call : StoreCall) :
    kept (calls ++ [call]) =
      ((kept calls).filter fun saved => call.target? ≠ some saved.id) ++ call.saved?.toList := by
  induction calls with
  | nil =>
    rw [List.nil_append, kept, kept, List.filter_nil, List.nil_append]
    cases call.saved? with
    | none => rfl
    | some saved => simp [kept]
  | cons first rest ih =>
    rw [List.cons_append, kept, kept, ih]
    cases first.saved? with
    | none => rfl
    | some saved =>
      -- A save goes if its identifier is used by a later call of the run or by the one behind it.
      by_cases hlater : ∃ later ∈ rest, later.target? = some saved.id
      · simp [hlater]
      · by_cases hlast : call.target? = some saved.id
        · simp [hlater, hlast]
        · simp [hlater, hlast]

/-- What is kept is what was last saved under its identifier. -/
theorem mem_kept {calls : List StoreCall} {saved : Saved} :
    saved ∈ kept calls ↔ lastSaved? calls saved.id = some saved := by
  induction calls using List.reverseRecOn with
  | nil => simp [kept, lastSaved?]
  | append_singleton calls call ih =>
    rw [kept_append, lastSaved?_append, List.mem_append, List.mem_filter, ih, Option.mem_toList]
    by_cases htarget : call.target? = some saved.id
    · simp [htarget]
    · have hother : call.saved? ≠ some saved := mt StoreCall.target?_of_saved? htarget
      simp [htarget, hother]

/-- The last save under an identifier has this identifier. -/
theorem id_of_lastSaved? {calls : List StoreCall} {id : Uuid} {saved : Saved}
    (h : lastSaved? calls id = some saved) : saved.id = id := by
  obtain ⟨call, hfound, hsaved⟩ := Option.bind_eq_some_iff.1 h
  have htarget := List.find?_some hfound
  rw [decide_eq_true_eq] at htarget
  exact Option.some.inj ((StoreCall.target?_of_saved? hsaved).symm.trans htarget)

/-- No identifier is kept twice. -/
theorem nodup_kept (calls : List StoreCall) : ((kept calls).map (·.id)).Nodup := by
  induction calls using List.reverseRecOn with
  | nil => exact List.nodup_nil
  | append_singleton calls call ih =>
    have hothers : (((kept calls).filter fun saved => call.target? ≠ some saved.id).map
        (·.id)).Nodup := (List.filter_sublist.map _).nodup ih
    rw [kept_append]
    cases hsaved : call.saved? with
    | none => rwa [Option.toList_none, List.append_nil]
    | some saved =>
      rw [Option.toList_some, List.map_append, List.map_singleton, List.nodup_append']
      refine ⟨hothers, List.nodup_singleton _, List.disjoint_singleton.2 fun hmem => ?_⟩
      obtain ⟨other, hother, hid⟩ := List.mem_map.1 hmem
      have hne := of_decide_eq_true (List.mem_filter.1 hother).2
      exact hne (hid ▸ StoreCall.target?_of_saved? hsaved)

/-! ## The list of a run of calls -/

namespace Store

open Summary (Ahead)

/-- The summaries are those of the stored dashboards. -/
theorem mem_summaries {s : Store} {summary : Summary} :
    summary ∈ s.summaries ↔ ∃ id stored, s.dashboards.get? id = some stored ∧
      stored.summary = summary := by
  simp only [summaries, List.mem_map, Prod.exists, Ledger.get?_eq_some_iff]

/-- The summaries stand under their own identifiers. -/
theorem map_id_summaries (calls : List StoreCall) :
    (after calls).summaries.map (·.id) = created calls := by
  rw [summaries, List.map_map, ← keys_after, Ledger.keys]
  refine List.map_congr_left fun entry hentry => ?_
  have hget := Ledger.get?_eq_some_iff.2 hentry
  rw [get?_after, Option.map_eq_some_iff] at hget
  obtain ⟨saved, hsaved, hstored⟩ := hget
  rw [Function.comp_apply, ← hstored]
  exact id_of_lastSaved? hsaved

/-- The summaries are those of what is kept. -/
theorem summaries_perm_kept (calls : List StoreCall) :
    (after calls).summaries.Perm ((kept calls).map Saved.summary) := by
  have hids : ((after calls).summaries.map (·.id)).Nodup := by
    rw [map_id_summaries]
    exact nodup_created calls
  have hkept : (((kept calls).map Saved.summary).map (·.id)).Nodup := by
    rw [List.map_map]
    exact nodup_kept calls
  refine (List.perm_ext_iff_of_nodup hids.of_map hkept.of_map).2 fun summary => ?_
  rw [mem_summaries, List.mem_map]
  constructor
  · rintro ⟨id, stored, hget, rfl⟩
    rw [get?_after, Option.map_eq_some_iff] at hget
    obtain ⟨saved, hsaved, rfl⟩ := hget
    obtain rfl := id_of_lastSaved? hsaved
    exact ⟨saved, mem_kept.2 hsaved, rfl⟩
  · rintro ⟨saved, hsaved, rfl⟩
    refine ⟨saved.id, saved.stored, ?_, rfl⟩
    rw [get?_after, mem_kept.1 hsaved, Option.map_some]

/-- One summary is listed ahead of another: it was saved later, or at the same time under an
identifier that was created later. -/
abbrev ListedAhead (calls : List StoreCall) : Summary → Summary → Prop :=
  Ahead fun a b => [b.id, a.id].Sublist (created calls)

/-- The list holds the summaries of the saves that are kept. -/
theorem list_perm_kept (calls : List StoreCall) :
    (after calls).list.Perm ((kept calls).map Saved.summary) :=
  (list_perm _).trans (summaries_perm_kept calls)

/-- The list is ordered by the times of the saves, and at one time by the order of creation from the
last one on. -/
theorem pairwise_list_after (calls : List StoreCall) :
    (after calls).list.Pairwise (ListedAhead calls) := by
  refine pairwise_list ?_
  -- The summaries stand in the store in the order of creation, and ties turn it round.
  have hcreated : (created calls).Pairwise fun x y => [x, y].Sublist (created calls) :=
    List.pairwise_iff_forall_sublist.2 id
  rw [← map_id_summaries, List.pairwise_map] at hcreated
  rwa [map_id_summaries] at hcreated

/-- Of two identifiers, one was created before the other and not the other way round. -/
theorem not_sublist_swap {ids : List Uuid} (hnodup : ids.Nodup) {x y : Uuid}
    (hxy : [x, y].Sublist ids) : ¬ [y, x].Sublist ids := by
  induction ids with
  | nil => cases hxy
  | cons first rest ih =>
    obtain ⟨hfirst, hrest⟩ := List.nodup_cons.1 hnodup
    intro hyx
    cases hxy with
    | cons _ hxy =>
      cases hyx with
      | cons _ hyx => exact ih hrest hxy hyx
      | cons_cons _ _ => exact hfirst (hxy.subset (by simp))
    | cons_cons _ hy =>
      cases hyx with
      | cons _ hyx => exact hfirst (hyx.subset (by simp))
      | cons_cons _ _ => exact hfirst (hy.subset (by simp))

/-- Of two summaries that are listed, one alone is ahead of the other. -/
theorem not_listedAhead_swap {calls : List StoreCall} {a b : Summary}
    (hab : ListedAhead calls a b) : ¬ ListedAhead calls b a := by
  rintro (hlt | ⟨heq, hba⟩)
  · exact Nat.not_le_of_lt hlt hab.savedAt_le
  · rcases hab with hlt | ⟨-, hab⟩
    · exact Nat.lt_irrefl _ (heq ▸ hlt)
    · exact not_sublist_swap (nodup_created calls) hab hba

/-- A list of the same summaries in the same order is the one that is listed. -/
theorem list_eq_iff {calls : List StoreCall} {summaries : List Summary}
    (hperm : (after calls).list.Perm summaries) :
    (after calls).list = summaries ↔ summaries.Pairwise (ListedAhead calls) := by
  constructor
  · rintro rfl
    exact pairwise_list_after calls
  · intro hpairwise
    exact List.Perm.eq_of_pairwise
      (fun a b _ _ hab hba => absurd hba (not_listedAhead_swap hab))
      (pairwise_list_after calls) hpairwise hperm

/-- The clock never goes back between two saves. -/
def ClockAscends (calls : List StoreCall) : Prop :=
  (calls.filterMap StoreCall.saved?).Pairwise fun a b => a.savedAt ≤ b.savedAt

instance (calls : List StoreCall) : Decidable (ClockAscends calls) :=
  inferInstanceAs (Decidable (List.Pairwise _ _))

/-- The list runs from the last save to the first exactly if saves at one time come in the order in
which their dashboards were created. -/
theorem list_eq_reverse_kept_iff {calls : List StoreCall} (hclock : ClockAscends calls) :
    (after calls).list = ((kept calls).map Saved.summary).reverse ↔
      (kept calls).Pairwise fun a b =>
        a.savedAt = b.savedAt → [a.id, b.id].Sublist (created calls) := by
  have htimes : (kept calls).Pairwise fun a b => a.savedAt ≤ b.savedAt :=
    List.Pairwise.sublist (kept_sublist calls) hclock
  rw [list_eq_iff ((list_perm_kept calls).trans (List.reverse_perm _).symm),
    List.pairwise_reverse, List.pairwise_map]
  constructor
  · refine List.Pairwise.imp fun hahead heq => ?_
    rcases hahead with hlt | ⟨-, hcreated⟩
    · exact absurd heq (Nat.ne_of_lt hlt)
    · exact hcreated
  · intro hties
    refine (htimes.and hties).imp fun ⟨hle, htie⟩ => ?_
    rcases Nat.lt_or_eq_of_le hle with hlt | heq
    · exact .inl hlt
    · exact .inr ⟨heq.symm, htie heq⟩

/-- If time goes on between any two saves, the dashboards are listed by their last saves, the latest
first. -/
theorem list_of_advancing_clock {calls : List StoreCall}
    (hclock : (calls.filterMap StoreCall.saved?).Pairwise fun a b => a.savedAt < b.savedAt) :
    (after calls).list = ((kept calls).map Saved.summary).reverse := by
  refine (list_eq_reverse_kept_iff (hclock.imp Nat.le_of_lt)).2 ?_
  exact (hclock.sublist (kept_sublist calls)).imp fun hlt heq => absurd heq (Nat.ne_of_lt hlt)

/-- If the clock never goes back, a store lists what is kept of the calls, one summary for each
identifier, by the times of the saves. The order is that of the last saves, the latest first,
exactly if of any two saves at one time the later one is of the identifier that was created
later. -/
theorem list_newest_first_iff {calls : List StoreCall} (hclock : ClockAscends calls) :
    (after calls).list.Perm ((kept calls).map Saved.summary) ∧
      (after calls).list.Pairwise (ListedAhead calls) ∧
      ((after calls).list = ((kept calls).map Saved.summary).reverse ↔
        (kept calls).Pairwise fun a b =>
          a.savedAt = b.savedAt → [a.id, b.id].Sublist (created calls)) :=
  ⟨list_perm_kept calls, pairwise_list_after calls, list_eq_reverse_kept_iff hclock⟩

/-- Two dashboards are created, and the first of them is saved again, all at one time. -/
def savedAgain : List StoreCall :=
  [.save 5 (Uuid.ofNat 1) { name := "first", datasetId := "sales.csv" },
    .save 5 (Uuid.ofNat 2) { name := "second", datasetId := "sales.csv" },
    .save 5 (Uuid.ofNat 3) { id := some (Uuid.ofNat 1), name := "again", datasetId := "sales.csv" }]

/-- A dashboard that is saved again at the same time stays behind the newer one. -/
theorem savedAgain_stays_behind :
    ClockAscends savedAgain ∧
      (after savedAgain).list.map (·.name) = ["second", "again"] ∧
      (after savedAgain).list ≠ ((kept savedAgain).map Saved.summary).reverse := by
  decide +kernel

/-- The second save of the first dashboard is out of the order of creation. -/
theorem list_newest_first_iff_savedAgain :
    ClockAscends savedAgain ∧
      ¬ (kept savedAgain).Pairwise fun a b =>
        a.savedAt = b.savedAt → [a.id, b.id].Sublist (created savedAgain) := by
  have hclock : ClockAscends savedAgain := by decide +kernel
  have hdiffers : (after savedAgain).list ≠ ((kept savedAgain).map Saved.summary).reverse := by
    decide +kernel
  exact ⟨hclock, mt (list_newest_first_iff hclock).2.2.2 hdiffers⟩

end Store

end Chartboard
