import Chartboard.SortedMap
import Mathlib.Data.List.Forall2

/-!
# Reading sorted maps

A write is seen under its own name and nowhere else, and so is an erasure. Two maps whose values are
related under every name have their entries in the same places, since there is one order for them to
stand in. So maps that give the same value to every name are the same.
-/

namespace Chartboard.SortedMap

variable {α : Type}

/-- After an insertion its name has the new value, and all other names have the value from
before. -/
theorem lookup_insertEntry (name n : String) (value : α) (entries : List (String × α)) :
    (insertEntry name value entries).lookup n =
      if n = name then some value else entries.lookup n := by
  induction entries with
  | nil =>
    by_cases h : n = name
    · simp [insertEntry, h]
    · simp [insertEntry, List.lookup_cons, h, beq_eq_false_iff_ne.2 h]
  | cons entry rest ih =>
    obtain ⟨k, v⟩ := entry
    have hfront : ((name, value) :: (k, v) :: rest).lookup n =
        if n = name then some value else ((k, v) :: rest).lookup n := by
      by_cases h : n = name
      · simp [h]
      · rw [List.lookup_cons, beq_eq_false_iff_ne.2 h, if_neg h]
    rw [insertEntry]
    split
    · exact hfront
    · split
      · next hname =>
        subst hname
        by_cases h : n = name
        · simp [h]
        · simp [List.lookup_cons, h, beq_eq_false_iff_ne.2 h]
      · next hname =>
        rw [List.lookup_cons, List.lookup_cons, ih]
        by_cases h : n = k
        · have hne : k ≠ name := fun heq => hname heq.symm
          simp [h, hne]
        · simp only [beq_eq_false_iff_ne.2 h]

/-- What is inserted under a name is found there, and nothing else changes. -/
theorem get?_insert (map : SortedMap α) (name n : String) (value : α) :
    (map.insert name value).get? n = if n = name then some value else map.get? n :=
  lookup_insertEntry name n value map.entries

/-- Without the entries of a name nothing is found under it, and everything else as before. -/
theorem lookup_filter_ne (name n : String) (entries : List (String × α)) :
    (entries.filter fun e => e.1 ≠ name).lookup n =
      if n = name then none else entries.lookup n := by
  induction entries with
  | nil => simp
  | cons entry rest ih =>
    obtain ⟨k, v⟩ := entry
    by_cases hk : k = name
    · rw [List.filter_cons_of_neg (by simp [hk]), ih, List.lookup_cons]
      by_cases h : n = name
      · simp [h]
      · have hne : n ≠ k := by rw [hk]; exact h
        simp [h, beq_eq_false_iff_ne.2 hne]
    · rw [List.filter_cons_of_pos (by simp [hk]), List.lookup_cons, List.lookup_cons, ih]
      by_cases h : n = k
      · simp [h, hk]
      · simp [beq_eq_false_iff_ne.2 h]

/-- What is erased is not found any more, and nothing else changes. -/
theorem get?_erase (map : SortedMap α) (name n : String) :
    (map.erase name).get? n = if n = name then none else map.get? n :=
  lookup_filter_ne name n map.entries

/-! ## Ascending entries -/

/-- A name that is less than all names of some entries is not among them. -/
theorem lookup_eq_none_of_lt {name : String} {entries : List (String × α)}
    (h : ∀ e ∈ entries, name < e.1) : entries.lookup name = none := by
  refine List.lookup_eq_none_iff.2 fun e he => ?_
  have hne : name ≠ e.1 := fun heq => String.lt_irrefl name (heq ▸ h e he)
  exact bne_iff_ne.2 hne

/-- A map has one entry of a name that has a value, and none of any other name. -/
theorem filter_entries (map : SortedMap α) (name : String) :
    map.entries.filter (fun e => e.1 = name) = ((map.get? name).map (Prod.mk name)).toList := by
  obtain ⟨entries, hascending⟩ := map
  rw [get?]
  induction entries with
  | nil => rfl
  | cons entry rest ih =>
    obtain ⟨k, v⟩ := entry
    obtain ⟨hfirst, hrest⟩ := List.pairwise_cons.1 hascending
    rw [List.lookup_cons]
    by_cases hname : k = name
    · subst hname
      -- The names that follow are greater, so the name does not come again.
      have hothers := ih hrest
      rw [lookup_eq_none_of_lt hfirst] at hothers
      rw [List.filter_cons_of_pos (by simp), hothers, beq_self_eq_true]
      rfl
    · rw [List.filter_cons_of_neg (by simp [hname]), ih hrest,
        beq_eq_false_iff_ne.2 (Ne.symm hname)]

/-! ## Maps with related values -/

/-- The first of ascending names is the least. -/
theorem first_le_of_lookup {y : String × α} {ys : List (String × α)}
    (h : (y :: ys).Pairwise fun a b => a.1 < b.1) {name : String}
    (hname : ((y :: ys).lookup name).isSome) : y.1 ≤ name := by
  refine String.not_lt.1 fun hlt => ?_
  have hnone : (y :: ys).lookup name = none := by
    refine lookup_eq_none_of_lt fun e he => ?_
    rcases List.mem_cons.1 he with rfl | he
    · exact hlt
    · exact String.lt_trans hlt ((List.pairwise_cons.1 h).1 e he)
  rw [hnone] at hname
  cases hname

/-- Of two related options both are there or neither. -/
theorem isSome_eq_of_rel {r : α → α → Prop} {v w : Option α} (h : Option.Rel r v w) :
    v.isSome = w.isSome := by
  cases h with
  | some _ => rfl
  | none => rfl

/-- Ascending entries whose values are related under every name are entries of the same names with
related values. -/
theorem forall₂_of_lookup {r : α → α → Prop} {xs ys : List (String × α)}
    (hxs : xs.Pairwise fun a b => a.1 < b.1) (hys : ys.Pairwise fun a b => a.1 < b.1)
    (h : ∀ name, Option.Rel r (xs.lookup name) (ys.lookup name)) :
    List.Forall₂ (fun e f => e.1 = f.1 ∧ r e.2 f.2) xs ys := by
  have hown : ∀ (e : String × α) (rest : List (String × α)),
      ((e :: rest).lookup e.1).isSome := by
    intro e rest
    rw [List.lookup_cons, beq_self_eq_true]
    rfl
  induction xs generalizing ys with
  | nil =>
    cases ys with
    | nil => exact .nil
    | cons y ys =>
      have hy := hown y ys
      rw [← isSome_eq_of_rel (h y.1)] at hy
      cases hy
  | cons x xs ih =>
    cases ys with
    | nil =>
      have hx := hown x xs
      rw [isSome_eq_of_rel (h x.1)] at hx
      cases hx
    | cons y ys =>
      have hnames : x.1 = y.1 := by
        refine String.le_antisymm (first_le_of_lookup hxs ?_) (first_le_of_lookup hys ?_)
        · rw [isSome_eq_of_rel (h y.1)]
          exact hown y ys
        · rw [← isSome_eq_of_rel (h x.1)]
          exact hown x xs
      obtain ⟨hx, hxs⟩ := List.pairwise_cons.1 hxs
      obtain ⟨hy, hys⟩ := List.pairwise_cons.1 hys
      have hvalues : r x.2 y.2 := by
        have hfirst := h x.1
        rw [List.lookup_cons, List.lookup_cons, ← hnames, beq_self_eq_true] at hfirst
        cases hfirst with
        | some hvalues => exact hvalues
      have hrest : ∀ name, Option.Rel r (xs.lookup name) (ys.lookup name) := by
        intro name
        by_cases hname : name = x.1
        · rw [lookup_eq_none_of_lt (hname ▸ hx), lookup_eq_none_of_lt (hname ▸ hnames ▸ hy)]
          exact .none
        · have hlater := h name
          rw [List.lookup_cons, List.lookup_cons, ← hnames, beq_eq_false_iff_ne.2 hname] at hlater
          exact hlater
      exact .cons ⟨hnames, hvalues⟩ (ih hxs hys hrest)

/-- Two maps that give the same value to every name are the same map. -/
theorem ext_get? {a b : SortedMap α} (h : ∀ name, a.get? name = b.get? name) : a = b := by
  obtain ⟨first, hfirst⟩ := a
  obtain ⟨second, hsecond⟩ := b
  have hvalues : ∀ name, Option.Rel Eq (first.lookup name) (second.lookup name) := by
    intro name
    have hname : first.lookup name = second.lookup name := h name
    rw [hname]
    cases second.lookup name with
    | none => exact .none
    | some value => exact .some rfl
  have hentries : first = second := by
    rw [← List.forall₂_eq_eq_eq]
    exact (forall₂_of_lookup hfirst hsecond hvalues).imp fun _ _ heq => Prod.ext heq.1 heq.2
  subst hentries
  rfl

end Chartboard.SortedMap
