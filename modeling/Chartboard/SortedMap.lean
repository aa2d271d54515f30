/-!
# Sorted maps

A sorted map holds its entries in ascending order of their names, each name once, so two maps that
give the same value to every name are the same map. Names are ordered by their code points, which
is the order of their UTF-8 bytes.
-/

namespace Chartboard

/-- A finite map from names, in ascending order. -/
structure SortedMap (α : Type) where
  /-- The names with their values. -/
  entries : List (String × α)
  /-- The names strictly ascend. -/
  ascending : entries.Pairwise fun a b => a.1 < b.1

namespace SortedMap

variable {α : Type}

/-- Writes a value into ascending entries, in place of the value of its name if it is there. -/
def insertEntry (name : String) (value : α) : List (String × α) → List (String × α)
  | [] => [(name, value)]
  | (n, v) :: rest =>
    if name < n then (name, value) :: (n, v) :: rest
    else if name = n then (name, value) :: rest
    else (n, v) :: insertEntry name value rest

/-- An entry of the result is the inserted one or was there before. -/
theorem mem_insertEntry {name : String} {value : α} {entries : List (String × α)}
    {e : String × α} (h : e ∈ insertEntry name value entries) :
    e = (name, value) ∨ e ∈ entries := by
  induction entries with
  | nil => simpa [insertEntry] using h
  | cons entry rest ih =>
    obtain ⟨n, v⟩ := entry
    simp only [insertEntry] at h
    split at h
    · simpa using h
    · split at h
      · rcases List.mem_cons.1 h with h | h
        · exact .inl h
        · exact .inr (List.mem_cons_of_mem _ h)
      · rcases List.mem_cons.1 h with h | h
        · exact .inr (h ▸ List.mem_cons_self)
        · rcases ih h with h | h
          · exact .inl h
          · exact .inr (List.mem_cons_of_mem _ h)

/-- Of two different names the one that is not less is greater. -/
theorem lt_of_not_lt_of_ne {a b : String} (h : ¬a < b) (hne : a ≠ b) : b < a :=
  Std.lt_of_le_of_ne (String.not_lt.1 h) hne.symm

/-- Inserting keeps the names in ascending order. -/
theorem ascending_insertEntry {name : String} {value : α} {entries : List (String × α)}
    (h : entries.Pairwise fun a b => a.1 < b.1) :
    (insertEntry name value entries).Pairwise fun a b => a.1 < b.1 := by
  induction entries with
  | nil => simp [insertEntry]
  | cons entry rest ih =>
    obtain ⟨n, v⟩ := entry
    have hrest := List.pairwise_cons.1 h
    simp only [insertEntry]
    split
    · next hlt =>
      refine List.pairwise_cons.2 ⟨fun e he => ?_, h⟩
      rcases List.mem_cons.1 he with he | he
      · exact he ▸ hlt
      · exact String.lt_trans hlt (hrest.1 e he)
    · next hlt =>
      split
      · next heq =>
        subst heq
        exact List.pairwise_cons.2 ⟨hrest.1, hrest.2⟩
      · next hne =>
        refine List.pairwise_cons.2 ⟨fun e he => ?_, ih hrest.2⟩
        rcases mem_insertEntry he with he | he
        · exact he ▸ lt_of_not_lt_of_ne hlt hne
        · exact hrest.1 e he

/-- The map without names. -/
def empty : SortedMap α := ⟨[], .nil⟩

instance : Inhabited (SortedMap α) := ⟨empty⟩

instance : EmptyCollection (SortedMap α) := ⟨empty⟩

/-- Writes a value under a name. -/
def insert (map : SortedMap α) (name : String) (value : α) : SortedMap α :=
  ⟨insertEntry name value map.entries, ascending_insertEntry map.ascending⟩

/-- The map that some writes leave, from the first to the last. -/
def ofList (writes : List (String × α)) : SortedMap α :=
  writes.foldl (fun map w => map.insert w.1 w.2) empty

/-- The value of a name. -/
def get? (map : SortedMap α) (name : String) : Option α :=
  map.entries.lookup name

/-- The map without one name. -/
def erase (map : SortedMap α) (name : String) : SortedMap α :=
  ⟨map.entries.filter fun e => e.1 ≠ name, map.ascending.filter _⟩

/-- The number of names. -/
def size (map : SortedMap α) : Nat :=
  map.entries.length

end SortedMap

end Chartboard
