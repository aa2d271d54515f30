import Chartboard.Ledger
import Mathlib.Data.List.Nodup
import Mathlib.Data.List.Induction

/-!
# Reading ledgers

What a key holds after some writes is the value of the last write to it, and the keys are those
that were written, in the order in which they first came.
-/

namespace Chartboard.Ledger

variable {κ ν : Type} [DecidableEq κ]

/-- After an insertion its key has the new value, and all other keys have the value from before. -/
theorem lookup_insertEntry (key k : κ) (value : ν) (entries : List (κ × ν)) :
    (insertEntry key value entries).lookup k =
      if k = key then some value else entries.lookup k := by
  induction entries with
  | nil =>
    by_cases h : k = key
    · simp [insertEntry, h]
    · simp [insertEntry, List.lookup_cons, h, beq_eq_false_iff_ne.2 h]
  | cons entry rest ih =>
    obtain ⟨l, v⟩ := entry
    by_cases hl : l = key
    · subst hl
      by_cases h : k = l
      · simp [insertEntry, h]
      · simp [insertEntry, List.lookup_cons, h, beq_eq_false_iff_ne.2 h]
    · simp only [insertEntry, hl, if_false, List.lookup_cons]
      by_cases h : k = l
      · have hk : k ≠ key := by rw [h]; exact hl
        simp [h, hl]
      · simp only [beq_eq_false_iff_ne.2 h, ih]

/-- What is inserted under a key is found there, and nothing else changes. -/
theorem get?_insert (ledger : Ledger κ ν) (key k : κ) (value : ν) :
    (ledger.insert key value).get? k = if k = key then some value else ledger.get? k :=
  lookup_insertEntry key k value ledger.entries

/-- Further writes go on from the ledger of the first ones. -/
theorem ofList_append (writes more : List (κ × ν)) :
    ofList (writes ++ more) =
      more.foldl (fun ledger w => ledger.insert w.1 w.2) (ofList writes) := by
  unfold ofList
  rw [List.foldl_append]

/-- A key holds the value of the last write to it. -/
theorem get?_ofList (writes : List (κ × ν)) (k : κ) :
    (ofList writes).get? k = writes.reverse.lookup k := by
  induction writes using List.reverseRecOn with
  | nil => rfl
  | append_singleton writes w ih =>
    obtain ⟨key, value⟩ := w
    rw [ofList_append, List.foldl_cons, List.foldl_nil, get?_insert, ih, List.reverse_append,
      List.reverse_singleton, List.singleton_append, List.lookup_cons]
    by_cases h : k = key
    · simp [h]
    · simp [h, beq_eq_false_iff_ne.2 h]

/-- An insertion adds its key and takes none away. -/
theorem mem_keys_insert {ledger : Ledger κ ν} {key k : κ} {value : ν} :
    k ∈ (ledger.insert key value).keys ↔ k = key ∨ k ∈ ledger.keys :=
  mem_keys_insertEntry

/-- A ledger has the keys that were written. -/
theorem mem_keys_ofList {writes : List (κ × ν)} {k : κ} :
    k ∈ (ofList writes).keys ↔ k ∈ writes.map Prod.fst := by
  induction writes using List.reverseRecOn with
  | nil => rfl
  | append_singleton writes w ih =>
    rw [ofList_append, List.foldl_cons, List.foldl_nil, mem_keys_insert, ih, List.map_append,
      List.mem_append, List.map_singleton, List.mem_singleton, or_comm]

/-- What is found under a key is one of the entries, and every entry is found. -/
theorem get?_eq_some_iff {ledger : Ledger κ ν} {k : κ} {v : ν} :
    ledger.get? k = some v ↔ (k, v) ∈ ledger.entries := by
  obtain ⟨entries, hnodup⟩ := ledger
  show entries.lookup k = some v ↔ (k, v) ∈ entries
  induction entries with
  | nil => simp
  | cons entry rest ih =>
    obtain ⟨l, w⟩ := entry
    rw [List.map_cons, List.nodup_cons] at hnodup
    rw [List.lookup_cons, List.mem_cons, Prod.mk.injEq]
    by_cases h : k = l
    · subst h
      have hrest : (k, v) ∉ rest := fun hm => hnodup.1 (List.mem_map.2 ⟨(k, v), hm, rfl⟩)
      simp [hrest, eq_comm]
    · rw [beq_eq_false_iff_ne.2 h]
      simp [h, ih hnodup.2]

/-- There is a value under the keys, and under nothing else. -/
theorem mem_keys_iff {ledger : Ledger κ ν} {k : κ} :
    k ∈ ledger.keys ↔ ∃ v, ledger.get? k = some v := by
  constructor
  · intro hk
    obtain ⟨⟨_, v⟩, hm, rfl⟩ := List.mem_map.1 hk
    exact ⟨v, get?_eq_some_iff.2 hm⟩
  · rintro ⟨v, hv⟩
    exact List.mem_map.2 ⟨(k, v), get?_eq_some_iff.1 hv, rfl⟩

/-- Something is found under the keys, and nowhere else. -/
theorem get?_isSome_iff {ledger : Ledger κ ν} {k : κ} :
    (ledger.get? k).isSome ↔ k ∈ ledger.keys := by
  rw [mem_keys_iff, Option.isSome_iff_exists]

/-- Writing to a key that is there keeps the keys. -/
theorem keys_insert_of_mem {ledger : Ledger κ ν} {key : κ} (value : ν) (h : key ∈ ledger.keys) :
    (ledger.insert key value).keys = ledger.keys := by
  obtain ⟨entries, hnodup⟩ := ledger
  change key ∈ entries.map Prod.fst at h
  show (insertEntry key value entries).map Prod.fst = entries.map Prod.fst
  clear hnodup
  induction entries with
  | nil => cases h
  | cons entry rest ih =>
    obtain ⟨k, v⟩ := entry
    by_cases hk : k = key
    · simp [insertEntry, hk]
    · have hrest : key ∈ rest.map Prod.fst :=
        (List.mem_cons.1 h).resolve_left fun heq => hk heq.symm
      simp [insertEntry, hk, ih hrest]

/-- Writing the value that a key has changes nothing. -/
theorem insert_self {ledger : Ledger κ ν} {key : κ} {value : ν} (h : ledger.get? key = some value) :
    ledger.insert key value = ledger := by
  obtain ⟨entries, hnodup⟩ := ledger
  change entries.lookup key = some value at h
  have hentries : insertEntry key value entries = entries := by
    clear hnodup
    induction entries with
    | nil => cases h
    | cons entry rest ih =>
      obtain ⟨k, v⟩ := entry
      rw [List.lookup_cons] at h
      by_cases hk : k = key
      · subst hk
        simp only [beq_self_eq_true, Option.some.injEq] at h
        simp [insertEntry, h]
      · rw [beq_eq_false_iff_ne.2 fun heq => hk heq.symm] at h
        simp [insertEntry, hk, ih h]
  simp only [insert, hentries]

/-- A second write to a key leaves nothing of the first. -/
theorem insert_insert (ledger : Ledger κ ν) (key : κ) (first second : ν) :
    (ledger.insert key first).insert key second = ledger.insert key second := by
  obtain ⟨entries, hnodup⟩ := ledger
  have hentries : insertEntry key second (insertEntry key first entries) =
      insertEntry key second entries := by
    clear hnodup
    induction entries with
    | nil => simp [insertEntry]
    | cons entry rest ih =>
      obtain ⟨k, v⟩ := entry
      by_cases hk : k = key
      · simp [insertEntry, hk]
      · simp [insertEntry, hk, ih]
  simp only [insert, hentries]

/-- What is erased is not found any more, and nothing else changes. -/
theorem get?_erase (ledger : Ledger κ ν) (key k : κ) :
    (ledger.erase key).get? k = if k = key then none else ledger.get? k := by
  refine Option.ext fun v => ?_
  rw [get?_eq_some_iff]
  by_cases h : k = key
  · simp [erase, h]
  · simp [erase, h, get?_eq_some_iff]

/-- All keys but the erased one stay. -/
theorem mem_keys_erase {ledger : Ledger κ ν} {key k : κ} :
    k ∈ (ledger.erase key).keys ↔ k ≠ key ∧ k ∈ ledger.keys := by
  rw [← get?_isSome_iff, ← get?_isSome_iff, get?_erase]
  by_cases h : k = key
  · simp [h]
  · simp [h]

/-- A ledger contains exactly its keys. -/
theorem contains_iff {ledger : Ledger κ ν} {k : κ} : ledger.contains k ↔ k ∈ ledger.keys := by
  unfold contains keys
  rw [List.any_eq_true, List.mem_map]
  simp only [decide_eq_true_eq]

/-- A new key comes last. -/
theorem entries_insert_of_not_mem {ledger : Ledger κ ν} {key : κ} (value : ν)
    (h : key ∉ ledger.keys) :
    (ledger.insert key value).entries = ledger.entries ++ [(key, value)] := by
  obtain ⟨entries, hnodup⟩ := ledger
  change key ∉ entries.map Prod.fst at h
  show insertEntry key value entries = entries ++ [(key, value)]
  clear hnodup
  induction entries with
  | nil => rfl
  | cons entry rest ih =>
    obtain ⟨k, v⟩ := entry
    rw [List.map_cons, List.mem_cons, not_or] at h
    rw [insertEntry, if_neg fun hk => h.1 hk.symm, ih h.2, List.cons_append]

/-- New keys that all differ are written behind the entries that are there. -/
theorem entries_foldl_insert {writes : List (κ × ν)} (ledger : Ledger κ ν)
    (h : ((ledger.entries ++ writes).map Prod.fst).Nodup) :
    (writes.foldl (fun ledger w => ledger.insert w.1 w.2) ledger).entries =
      ledger.entries ++ writes := by
  induction writes generalizing ledger with
  | nil => rw [List.foldl_nil, List.append_nil]
  | cons w rest ih =>
    have hnew : w.1 ∉ ledger.keys := by
      rw [List.map_append] at h
      exact fun hw => (List.disjoint_of_nodup_append h) hw List.mem_cons_self
    have hinsert := entries_insert_of_not_mem w.2 hnew
    rw [List.append_cons] at h
    rw [List.foldl_cons, ih _ (by rwa [hinsert]), hinsert, ← List.append_cons]

/-- Writes to different keys are the entries that they leave. -/
theorem entries_ofList_of_nodup {writes : List (κ × ν)} (h : (writes.map Prod.fst).Nodup) :
    (ofList writes).entries = writes :=
  entries_foldl_insert empty h

omit [DecidableEq κ] in
/-- A ledger is known by its entries. -/
@[ext]
theorem ext {ledger other : Ledger κ ν} (h : ledger.entries = other.entries) : ledger = other := by
  cases ledger
  cases other
  cases h
  rfl

/-- A ledger is what its entries leave. -/
theorem ofList_entries (ledger : Ledger κ ν) : ofList ledger.entries = ledger :=
  ext (entries_ofList_of_nodup ledger.nodup_keys)

/-- Erasing a key undoes an insertion under it and leaves any other insertion in its place. -/
theorem filter_insertEntry (key k : κ) (value : ν) (entries : List (κ × ν)) :
    (insertEntry key value entries).filter (fun e => e.1 ≠ k) =
      if key = k then entries.filter (fun e => e.1 ≠ k)
      else insertEntry key value (entries.filter fun e => e.1 ≠ k) := by
  induction entries with
  | nil => by_cases h : key = k <;> simp [insertEntry, h]
  | cons entry rest ih =>
    obtain ⟨l, v⟩ := entry
    by_cases hl : l = key
    · by_cases h : key = k <;> simp [insertEntry, hl, h]
    · rw [insertEntry, if_neg hl, List.filter_cons, ih, List.filter_cons]
      by_cases hk : l = k
      · simp [hk]
      · by_cases h : key = k <;> simp [insertEntry, hk, h, hl]

/-- Without a key, nothing that is written to it is left. -/
theorem erase_ofList (writes : List (κ × ν)) (k : κ) :
    (ofList writes).erase k = ofList (writes.filter fun w => w.1 ≠ k) := by
  induction writes using List.reverseRecOn with
  | nil => rfl
  | append_singleton writes w ih =>
    have hentries := filter_insertEntry w.1 k w.2 (ofList writes).entries
    rw [ofList_append, List.foldl_cons, List.foldl_nil, List.filter_append, ofList_append, ← ih]
    refine ext ?_
    by_cases h : w.1 = k
    · rw [if_pos h] at hentries
      rw [List.filter_cons_of_neg (by simpa using h)]
      exact hentries
    · rw [if_neg h] at hentries
      rw [List.filter_cons_of_pos (by simpa using h)]
      exact hentries

/-- A key that is there keeps its place, and a new one comes last. -/
theorem keys_insert (ledger : Ledger κ ν) (key : κ) (value : ν) :
    (ledger.insert key value).keys =
      if key ∈ ledger.keys then ledger.keys else ledger.keys ++ [key] := by
  by_cases h : key ∈ ledger.keys
  · rw [if_pos h, keys_insert_of_mem value h]
  · rw [if_neg h]
    unfold keys
    rw [entries_insert_of_not_mem value h, List.map_append, List.map_singleton]

/-- The entries are what is found under the keys, in their order. -/
theorem map_entries_eq {ρ : Type} (ledger : Ledger κ ν) (f : κ → ν → ρ) :
    (ledger.entries.map fun e => f e.1 e.2) =
      ledger.keys.filterMap fun k => (ledger.get? k).map (f k) := by
  unfold keys
  rw [List.filterMap_map, ← List.filterMap_eq_map]
  apply List.filterMap_congr
  intro e he
  have hget : ledger.get? e.1 = some e.2 := get?_eq_some_iff.2 he
  rw [Function.comp_apply, Function.comp_apply, hget, Option.map_some]

/-- Two ledgers with the same keys look alike entry by entry if they do key by key. -/
theorem map_entries_congr {μ ρ : Type} {ledger : Ledger κ ν} {other : Ledger κ μ} {f : κ → ν → ρ}
    {g : κ → μ → ρ} (hkeys : ledger.keys = other.keys)
    (h : ∀ k, (ledger.get? k).map (f k) = (other.get? k).map (g k)) :
    (ledger.entries.map fun e => f e.1 e.2) = other.entries.map fun e => g e.1 e.2 := by
  rw [map_entries_eq, map_entries_eq, hkeys]
  exact congrArg (List.filterMap · other.keys) (funext h)

omit [DecidableEq κ] in
/-- A ledger with one key has one entry. -/
theorem entries_eq_singleton {ledger : Ledger κ ν} {k : κ} {v : ν} (h : (k, v) ∈ ledger.entries)
    (hkeys : ∀ l ∈ ledger.keys, l = k) : ledger.entries = [(k, v)] := by
  obtain ⟨entries, hnodup⟩ := ledger
  have hlength : (entries.map Prod.fst).length ≤ 1 := by
    cases hcases : entries.map Prod.fst with
    | nil => exact Nat.zero_le 1
    | cons a rest =>
      cases rest with
      | nil => exact Nat.le_of_eq rfl
      | cons b rest =>
        have ha : a ∈ entries.map Prod.fst := by rw [hcases]; simp
        have hb : b ∈ entries.map Prod.fst := by rw [hcases]; simp
        rw [hcases, hkeys a ha, hkeys b hb] at hnodup
        simp at hnodup
  rw [List.length_map] at hlength
  cases entries with
  | nil => cases h
  | cons entry rest =>
    have hrest : rest = [] := List.length_eq_zero_iff.1 (by rw [List.length_cons] at hlength; omega)
    subst hrest
    rw [List.mem_singleton.1 h]

/-- Of two runs of writes the later one decides, wherever it writes. -/
theorem get?_ofList_append (writes later : List (κ × ν)) (k : κ) :
    (ofList (writes ++ later)).get? k = ((ofList later).get? k).or ((ofList writes).get? k) := by
  rw [get?_ofList, get?_ofList, get?_ofList, List.reverse_append, List.lookup_append]

/-- Nothing is found under a key that was never written. -/
theorem get?_ofList_of_not_mem {writes : List (κ × ν)} {k : κ} (h : k ∉ writes.map Prod.fst) :
    (ofList writes).get? k = none := by
  rw [← Option.not_isSome_iff_eq_none, get?_isSome_iff, mem_keys_ofList]
  exact h

/-- A key that is written holds one of the values that are written to it. -/
theorem exists_of_mem_writes {writes : List (κ × ν)} {k : κ} (h : k ∈ writes.map Prod.fst) :
    ∃ v, (ofList writes).get? k = some v ∧ (k, v) ∈ writes := by
  obtain ⟨found, hfound⟩ := mem_keys_iff.1 (mem_keys_ofList.2 h)
  have hlookup : writes.reverse.lookup k = some found := by rw [← get?_ofList, hfound]
  obtain ⟨before, after, hwrites, -⟩ := List.lookup_eq_some_iff.1 hlookup
  have hmem : (k, found) ∈ writes.reverse := by
    rw [hwrites]
    exact List.mem_append_right before List.mem_cons_self
  exact ⟨found, hfound, List.mem_reverse.1 hmem⟩

/-- Where all writes to a key agree, it holds what they write. -/
theorem get?_ofList_of_agree {writes : List (κ × ν)} {k : κ} {v : ν}
    (hkey : k ∈ writes.map Prod.fst) (h : ∀ w ∈ writes, w.1 = k → w.2 = v) :
    (ofList writes).get? k = some v := by
  obtain ⟨found, hfound, hmem⟩ := exists_of_mem_writes hkey
  rw [hfound]
  exact congrArg some (h (k, found) hmem rfl)

/-- Entries with other values are found under the same keys. -/
theorem lookup_map_values {μ : Type} (f : ν → μ) (entries : List (κ × ν)) (k : κ) :
    (entries.map fun e => (e.1, f e.2)).lookup k = (entries.lookup k).map f := by
  induction entries with
  | nil => rfl
  | cons entry rest ih =>
    obtain ⟨l, v⟩ := entry
    by_cases h : k = l
    · simp [h]
    · simp [List.lookup_cons, beq_eq_false_iff_ne.2 h, ih]

/-- No key comes twice, so an entry is found from either end. -/
theorem lookup_reverse_entries (ledger : Ledger κ ν) (k : κ) :
    ledger.entries.reverse.lookup k = ledger.get? k := by
  rw [← get?_ofList, ofList_entries]

end Chartboard.Ledger
