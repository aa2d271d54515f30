import Chartboard.Proofs.Ledger.Lookup

/-!
# First occurrences

The keys of a ledger that is written to one by one are the written keys, each of them once, in the
order in which they first come.
-/

namespace Chartboard

section FirstOccurrences

variable {α β : Type} [BEq α] [LawfulBEq α] [BEq β] [LawfulBEq β]

/-- One more element is new only if it has not come before. -/
theorem eraseDups_concat_of_mem {xs : List α} {x : α} (h : x ∈ xs) :
    (xs ++ [x]).eraseDups = xs.eraseDups := by
  rw [List.eraseDups_append, List.removeAll, List.filter_cons_of_neg (by simpa using h),
    List.filter_nil, List.eraseDups_nil, List.append_nil]

/-- A new element at the end is kept behind the others. -/
theorem eraseDups_concat_of_not_mem {xs : List α} {x : α} (h : x ∉ xs) :
    (xs ++ [x]).eraseDups = xs.eraseDups ++ [x] := by
  rw [List.eraseDups_append, List.removeAll, List.filter_cons_of_pos (by simpa using h),
    List.filter_nil, List.eraseDups_cons, List.filter_nil, List.eraseDups_nil]

/-- What is left of a list without its repetitions has none. -/
theorem nodup_eraseDups (xs : List α) : xs.eraseDups.Nodup := by
  induction xs using List.reverseRecOn with
  | nil => exact List.nodup_nil
  | append_singleton xs x ih =>
    by_cases hx : x ∈ xs
    · rwa [eraseDups_concat_of_mem hx]
    · rw [eraseDups_concat_of_not_mem hx, ← List.concat_eq_append]
      exact ih.concat fun hmem => hx (List.mem_eraseDups.1 hmem)

/-- A list without repetitions stays as it is. -/
theorem eraseDups_of_nodup {xs : List α} (h : xs.Nodup) : xs.eraseDups = xs := by
  induction xs using List.reverseRecOn with
  | nil => rfl
  | append_singleton xs x ih =>
    rw [← List.concat_eq_append, List.nodup_concat] at h
    obtain ⟨hx, hxs⟩ := h
    rw [eraseDups_concat_of_not_mem hx, ih hxs]

/-- Images that keep elements apart have the first occurrences of the elements. -/
theorem eraseDups_map {f : α → β} {xs : List α}
    (h : ∀ x ∈ xs, ∀ y ∈ xs, f x = f y → x = y) :
    (xs.map f).eraseDups = xs.eraseDups.map f := by
  induction xs using List.reverseRecOn with
  | nil => rfl
  | append_singleton xs x ih =>
    have hrest := ih fun y hy z hz => h y (List.mem_append_left _ hy) z (List.mem_append_left _ hz)
    have himage : f x ∈ xs.map f ↔ x ∈ xs := by
      refine ⟨fun hx => ?_, List.mem_map_of_mem⟩
      obtain ⟨y, hy, heq⟩ := List.mem_map.1 hx
      exact h y (List.mem_append_left _ hy) x (by simp) heq ▸ hy
    rw [List.map_append, List.map_singleton]
    by_cases hx : x ∈ xs
    · rw [eraseDups_concat_of_mem (himage.2 hx), eraseDups_concat_of_mem hx, hrest]
    · rw [eraseDups_concat_of_not_mem fun hmem => hx (himage.1 hmem),
        eraseDups_concat_of_not_mem hx, hrest, List.map_append, List.map_singleton]

omit [BEq β] [LawfulBEq β] in
/-- What is the same for all elements comes once. -/
theorem eraseDups_map_const (a : α) (xs : List β) :
    (xs.map fun _ => a).eraseDups = if xs.isEmpty then [] else [a] := by
  induction xs using List.reverseRecOn with
  | nil => rfl
  | append_singleton xs x ih =>
    cases xs with
    | nil => rfl
    | cons y rest =>
      rw [List.map_append, List.map_singleton, eraseDups_concat_of_mem (by simp), ih]
      rfl

end FirstOccurrences

namespace Ledger

variable {κ ν α : Type} [DecidableEq κ]

/-- The keys of a run of writes, whatever each of them makes of the ledger that it finds. -/
theorem keys_foldl {write : Ledger κ ν → α → Ledger κ ν} {key : α → κ}
    (h : ∀ ledger a, ∃ value, write ledger a = ledger.insert (key a) value) (xs : List α) :
    (xs.foldl write ∅).keys = (xs.map key).eraseDups := by
  induction xs using List.reverseRecOn with
  | nil => rfl
  | append_singleton xs a ih =>
    obtain ⟨value, hwrite⟩ := h (xs.foldl write ∅) a
    have hmem : key a ∈ (xs.foldl write ∅).keys ↔ key a ∈ xs.map key := by
      rw [ih, List.mem_eraseDups]
    rw [List.foldl_append, List.foldl_cons, List.foldl_nil, hwrite, keys_insert, List.map_append,
      List.map_singleton]
    by_cases ha : key a ∈ xs.map key
    · rw [if_pos (hmem.2 ha), eraseDups_concat_of_mem ha, ih]
    · rw [if_neg fun hkey => ha (hmem.1 hkey), eraseDups_concat_of_not_mem ha, ih]

/-- The keys of a ledger come in the order in which they were first written. -/
theorem keys_ofList (writes : List (κ × ν)) :
    (ofList writes).keys = (writes.map Prod.fst).eraseDups :=
  keys_foldl (fun _ _ => ⟨_, rfl⟩) writes

end Ledger

end Chartboard
