/-!
# Ledgers

A ledger is a finite map that remembers the order in which its keys first came. Writing to a key
that is there replaces its value and keeps its place.
-/

namespace Chartboard

/-- A finite map in the order in which its keys first came. -/
structure Ledger (κ ν : Type) where
  /-- The keys with their values. -/
  entries : List (κ × ν)
  /-- No key comes twice. -/
  nodup_keys : (entries.map Prod.fst).Nodup

namespace Ledger

variable {κ ν : Type} [DecidableEq κ]

/-- Writes a value into a list of entries: in place of the value of its key, or at the end. -/
def insertEntry (key : κ) (value : ν) : List (κ × ν) → List (κ × ν)
  | [] => [(key, value)]
  | (k, v) :: rest =>
    if k = key then (key, value) :: rest else (k, v) :: insertEntry key value rest

/-- Inserting adds the key to the keys and takes none away. -/
theorem mem_keys_insertEntry {key k : κ} {value : ν} {entries : List (κ × ν)} :
    k ∈ (insertEntry key value entries).map Prod.fst ↔
      k = key ∨ k ∈ entries.map Prod.fst := by
  induction entries with
  | nil => simp [insertEntry]
  | cons entry rest ih =>
    obtain ⟨l, v⟩ := entry
    by_cases h : l = key
    · subst h; simp [insertEntry]
    · simp only [insertEntry, h, if_false, List.map_cons, List.mem_cons, ih]
      constructor
      · rintro (h | h | h) <;> simp [h]
      · rintro (h | h | h) <;> simp [h]

/-- Inserting under a key that is there replaces its value, so no key comes twice. -/
theorem nodup_insertEntry {key : κ} {value : ν} {entries : List (κ × ν)}
    (h : (entries.map Prod.fst).Nodup) :
    ((insertEntry key value entries).map Prod.fst).Nodup := by
  induction entries with
  | nil => simp [insertEntry]
  | cons entry rest ih =>
    obtain ⟨k, v⟩ := entry
    rw [List.map_cons, List.nodup_cons] at h
    by_cases hk : k = key
    · subst hk
      simpa [insertEntry] using h
    · simp only [insertEntry, hk, if_false, List.map_cons, List.nodup_cons]
      refine ⟨fun hm => ?_, ih h.2⟩
      rcases mem_keys_insertEntry.1 hm with he | hr
      · exact hk he
      · exact h.1 hr

/-- The ledger without entries. -/
def empty : Ledger κ ν := ⟨[], List.nodup_nil⟩

instance : Inhabited (Ledger κ ν) := ⟨empty⟩

instance : EmptyCollection (Ledger κ ν) := ⟨empty⟩

/-- Writes a value under a key. -/
def insert (ledger : Ledger κ ν) (key : κ) (value : ν) : Ledger κ ν :=
  ⟨insertEntry key value ledger.entries, nodup_insertEntry ledger.nodup_keys⟩

/-- The ledger that some writes leave, from the first to the last. -/
def ofList (writes : List (κ × ν)) : Ledger κ ν :=
  writes.foldl (fun ledger w => ledger.insert w.1 w.2) empty

/-- The value of a key. -/
def get? (ledger : Ledger κ ν) (key : κ) : Option ν :=
  ledger.entries.lookup key

/-- The key is there. -/
def contains (ledger : Ledger κ ν) (key : κ) : Bool :=
  ledger.entries.any fun entry => entry.1 = key

/-- The keys in the order in which they first came. -/
def keys (ledger : Ledger κ ν) : List κ :=
  ledger.entries.map Prod.fst

/-- The number of keys. -/
def size (ledger : Ledger κ ν) : Nat :=
  ledger.entries.length

/-- The ledger without one key; the others keep their order. -/
def erase (ledger : Ledger κ ν) (key : κ) : Ledger κ ν :=
  ⟨ledger.entries.filter fun entry => entry.1 ≠ key,
    (List.filter_sublist.map Prod.fst).nodup ledger.nodup_keys⟩

end Ledger

end Chartboard
