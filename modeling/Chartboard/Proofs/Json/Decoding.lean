import Chartboard.Json.Decode
import Chartboard.Proofs.Json.Scanning
import Chartboard.Proofs.Outcome

/-!
# Trees read back

The tree of a value reads back as the value, if the value is canonical and not nested too deep.
What a decoder reads from the tree of a value it reads from the text of the value as well.
-/

namespace Chartboard

/-! ## Sorted entries -/

namespace SortedMap

variable {α : Type}

/-- A name behind all others comes last. -/
theorem insertEntry_last {name : String} {entries : List (String × α)}
    (h : ∀ e ∈ entries, e.1 < name) (value : α) :
    insertEntry name value entries = entries ++ [(name, value)] := by
  induction entries with
  | nil => rfl
  | cons entry rest ih =>
    obtain ⟨n, v⟩ := entry
    have hn : n < name := h (n, v) List.mem_cons_self
    have hne : name ≠ n := by
      rintro rfl
      exact String.lt_irrefl name hn
    rw [insertEntry, if_neg (String.lt_asymm hn), if_neg hne,
      ih fun e he => h e (List.mem_cons_of_mem _ he), List.cons_append]

/-- Members in ascending order are written one behind the other. -/
theorem entries_foldl_insert {writes : List (String × α)} (map : SortedMap α)
    (h : (map.entries ++ writes).Pairwise fun a b => a.1 < b.1) :
    (writes.foldl (fun map w => map.insert w.1 w.2) map).entries = map.entries ++ writes := by
  induction writes generalizing map with
  | nil => rw [List.foldl_nil, List.append_nil]
  | cons w rest ih =>
    have hlast : ∀ e ∈ map.entries, e.1 < w.1 := fun e he =>
      (List.pairwise_append.1 h).2.2 e he w List.mem_cons_self
    have hinsert : (map.insert w.1 w.2).entries = map.entries ++ [w] :=
      insertEntry_last hlast w.2
    rw [List.append_cons] at h
    rw [List.foldl_cons, ih _ (by rwa [hinsert]), hinsert, ← List.append_cons]

/-- Ascending writes leave themselves. -/
theorem entries_ofList {writes : List (String × α)} (h : writes.Pairwise fun a b => a.1 < b.1) :
    (ofList writes).entries = writes :=
  entries_foldl_insert empty h

/-- A map is what its entries leave. -/
theorem ofList_entries (map : SortedMap α) : ofList map.entries = map := by
  obtain ⟨entries, ascending⟩ := map
  have hentries := entries_ofList ascending
  cases hmap : ofList entries with
  | mk written _ =>
    rw [hmap] at hentries
    subst hentries
    rfl

end SortedMap

namespace Json

namespace Value

/-- Members that are sorted one by one are sorted all. -/
theorem pairwise_of_sorted : ∀ {members : List (String × Value)}, sorted members →
    members.Pairwise fun a b => a.1 < b.1
  | [], _ => .nil
  | [_], _ => List.pairwise_singleton _ _
  | (k, v) :: (l, w) :: rest, h => by
    obtain ⟨hkl, hrest⟩ := Bool.and_eq_true_iff.1 h
    have htail := pairwise_of_sorted hrest
    refine List.pairwise_cons.2 ⟨fun e he => ?_, htail⟩
    have hlt : k < l := of_decide_eq_true hkl
    rcases List.mem_cons.1 he with rfl | he
    · exact hlt
    · exact String.lt_trans hlt ((List.pairwise_cons.1 htail).1 e he)

/-- Members in ascending order are an object as they stand. -/
theorem ofMembers_of_sorted {members : List (String × Value)} (h : sorted members) :
    ofMembers members = object members := by
  rw [ofMembers, SortedMap.entries_ofList (pairwise_of_sorted h)]

/-- Members are nested no deeper than the deepest of them. -/
theorem depth_le_membersDepth {members : List (String × Value)} {e : String × Value}
    (h : e ∈ members) : e.2.depth ≤ membersDepth members := by
  induction members with
  | nil => cases h
  | cons member rest ih =>
    obtain ⟨k, v⟩ := member
    rw [membersDepth]
    rcases List.mem_cons.1 h with rfl | h
    · exact Nat.le_max_left _ _
    · exact (ih h).trans (Nat.le_max_right _ _)

/-- Items are nested no deeper than the deepest of them. -/
theorem depth_le_itemsDepth {items : List Value} {v : Value} (h : v ∈ items) :
    v.depth ≤ itemsDepth items := by
  induction items with
  | nil => cases h
  | cons item rest ih =>
    rw [itemsDepth]
    rcases List.mem_cons.1 h with rfl | h
    · exact Nat.le_max_left _ _
    · exact (ih h).trans (Nat.le_max_right _ _)

/-- An item of a member stands in two containers. -/
theorem depth_of_item (name : String) {members : List (String × Value)} {items : List Value}
    {v : Value} (hmember : (name, array items) ∈ members) (hv : v ∈ items) :
    v.depth + 2 ≤ (object members).depth := by
  have hitem := depth_le_itemsDepth hv
  have harray := depth_le_membersDepth hmember
  rw [depth] at harray
  rw [depth]
  omega

/-- Two lists of members nest as deep as the deeper of the two. -/
theorem membersDepth_append (members others : List (String × Value)) :
    membersDepth (members ++ others) = max (membersDepth members) (membersDepth others) := by
  induction members with
  | nil => rw [List.nil_append, membersDepth, Nat.zero_max]
  | cons member rest ih =>
    obtain ⟨k, v⟩ := member
    rw [List.cons_append, membersDepth, membersDepth, ih, Nat.max_assoc]

end Value

/-! ## Finished values -/

namespace Tree

mutual

/-- A canonical value is read back from its tree if it is not nested too deep. -/
theorem toValue_ofValue : ∀ (v : Value) {room : Nat}, v.isCanonical → v.depth ≤ room →
    toValue (some room) (ofValue v) = .ok v
  | .null, _, _, _ => rfl
  | .bool _, _, _, _ => rfl
  | .number _, _, _, _ => rfl
  | .string _, _, _, _ => rfl
  | .array items, room, hcanonical, hdepth => by
    rw [Value.depth] at hdepth
    have hroom : some room ≠ some 0 := by simp only [ne_eq, Option.some.injEq]; omega
    have hread := @toItems_ofItems items (room - 1) hcanonical (by omega)
    rw [ofValue, toValue, if_neg hroom, Option.map_some, hread]
    rfl
  | .object members, room, hcanonical, hdepth => by
    obtain ⟨hsorted, hmembers⟩ := Bool.and_eq_true_iff.1 hcanonical
    rw [Value.depth] at hdepth
    have hroom : some room ≠ some 0 := by simp only [ne_eq, Option.some.injEq]; omega
    have hread := @toMembers_ofMembers members (room - 1) hmembers (by omega)
    rw [ofValue, toValue, if_neg hroom, Option.map_some, hread]
    exact congrArg Except.ok (Value.ofMembers_of_sorted hsorted)

/-- Canonical items that nest no deeper than there is room for are read as themselves. -/
theorem toItems_ofItems : ∀ (items : List Value) {room : Nat}, Value.areCanonical items →
    Value.itemsDepth items ≤ room → toItems (some room) (ofItems items) = .ok items
  | [], _, _, _ => rfl
  | v :: items, room, hcanonical, hdepth => by
    obtain ⟨hv, hitems⟩ := Bool.and_eq_true_iff.1 hcanonical
    rw [Value.itemsDepth] at hdepth
    rw [ofItems, toItems, toValue_ofValue v hv (by omega), toItems_ofItems items hitems (by omega)]
    rfl

/-- Canonical members that nest no deeper than there is room for are read as themselves. -/
theorem toMembers_ofMembers : ∀ (members : List (String × Value)) {room : Nat},
    Value.membersCanonical members → Value.membersDepth members ≤ room →
    toMembers (some room) (ofMembers members) = .ok members
  | [], _, _, _ => rfl
  | (k, v) :: members, room, hcanonical, hdepth => by
    obtain ⟨hv, hmembers⟩ := Bool.and_eq_true_iff.1 hcanonical
    rw [Value.membersDepth] at hdepth
    rw [ofMembers, toMembers, toValue_ofValue v hv (by omega),
      toMembers_ofMembers members hmembers (by omega)]
    rfl

end

end Tree

/-! ## Decoders -/

namespace Decoder

variable {α : Type}

/-- In a text, the decoder reads a value as something. -/
def Reads (decoder : Decoder α) (v : Value) (a : α) : Prop :=
  decoder .text (Tree.ofValue v) = .ok a

/-- A text is read as itself. -/
theorem reads_string (s : String) : string.Reads (.string s) s :=
  rfl

/-- A truth value is read as itself. -/
theorem reads_bool (b : Bool) : bool.Reads (.bool b) b :=
  rfl

/-- A natural number below the bound is read as itself. -/
theorem reads_below {bound n : Nat} (wanted : Wanted) (h : n < bound) :
    (below bound wanted).Reads (Value.int n) n := by
  have hrange : (0 : Int) ≤ n ∧ (n : Int) < bound := ⟨Int.natCast_nonneg n, Int.ofNat_lt.2 h⟩
  show (if _ then _ else _) = _
  rw [if_pos hrange]
  rfl

/-- A natural number is read as itself if it has room in the bits. -/
theorem reads_natural {bits n : Nat} (h : n < Nat.pow 2 bits) :
    (natural bits).Reads (Value.int n) n :=
  reads_below (.natural bits) h

/-- A count of up to 64 bits is read as itself. -/
theorem reads_count {n : Nat} (h : n < 0x10000000000000000) : count.Reads (Value.int n) n :=
  reads_below .count h

/-- A canonical value is read as itself if it does not nest too deep. -/
theorem reads_anything {outside : Nat} {v : Value} (hcanonical : v.isCanonical)
    (hdepth : v.depth ≤ maxDepth - outside) : (anything outside).Reads v v := by
  show ((Tree.ofValue v).toValue (some (maxDepth - outside))).mapError _ = _
  rw [Tree.toValue_ofValue v hcanonical hdepth]
  rfl

/-- What is not null is read as something that is there. -/
theorem reads_optional {decoder : Decoder α} {v : Value} {a : α} (h : decoder.Reads v a)
    (hnull : v ≠ .null) : decoder.optional.Reads v (some a) := by
  unfold Reads optional
  split
  · next heq =>
    cases v with
    | null => exact absurd rfl hnull
    | _ => cases heq
  · rw [h]
    rfl

/-- Items are read one by one. -/
theorem mapM_ofItems {write : α → Value} {f : Tree → Except DecodeError α} {xs : List α}
    (h : ∀ x ∈ xs, f (Tree.ofValue (write x)) = .ok x) :
    (Tree.ofItems (xs.map write)).mapM f = .ok xs := by
  induction xs with
  | nil => rfl
  | cons x xs ih =>
    rw [List.map_cons, Tree.ofItems, List.mapM_cons, h x List.mem_cons_self,
      ih fun y hy => h y (List.mem_cons_of_mem x hy)]
    rfl

/-- A list is read as itself if its elements are. -/
theorem reads_list {decoder : Decoder α} {write : α → Value} {xs : List α}
    (h : ∀ x ∈ xs, decoder.Reads (write x) x) :
    decoder.list.Reads (.array (xs.map write)) xs := by
  unfold Reads list
  rw [Tree.ofValue]
  dsimp only
  rw [mapM_ofItems h]
  rfl

/-- Members are read one by one. -/
theorem mapM_ofMembers {f : Key × Tree → Except DecodeError (String × Value)}
    {members : List (String × Value)}
    (h : ∀ e ∈ members, f (.ok e.1, Tree.ofValue e.2) = .ok e) :
    (Tree.ofMembers members).mapM f = .ok members := by
  induction members with
  | nil => rfl
  | cons member members ih =>
    rw [Tree.ofMembers, List.mapM_cons, h member List.mem_cons_self,
      ih fun e he => h e (List.mem_cons_of_mem _ he)]
    rfl

/-- Members whose values are read as themselves are read in their order. -/
theorem reads_entries {decoder : Decoder Value} {members : List (String × Value)}
    (h : ∀ e ∈ members, decoder.Reads e.2 e.2) :
    (entries decoder).Reads (.object members) members := by
  unfold Reads entries
  rw [Tree.ofValue]
  dsimp only
  rw [mapM_ofMembers fun e he => ?_]
  · rfl
  · have hvalue : decoder .text (Tree.ofValue e.2) = .ok e.2 := h e he
    dsimp only
    rw [hvalue]
    rfl

/-- What is read from the tree of a value is read from any text that has this tree. -/
theorem Reads.ofTree {decoder : Decoder α} {v : Value} {a : α} (h : decoder.Reads v a)
    {text : String} (htext : Tree.ofText text = (Tree.ofValue v, true)) :
    decoder.ofText text = .ok a := by
  have htree : decoder .text (Tree.ofValue v) = .ok a := h
  rw [Decoder.ofText, htext]
  dsimp only
  rw [htree]
  rfl

/-- What is read from the tree of a value is read from its text. -/
theorem Reads.ofText {decoder : Decoder α} {v : Value} {a : α} (h : decoder.Reads v a)
    (hnumbers : ∀ n ∈ v.numbers, n.ReadsBack) : decoder.ofText v.pretty = .ok a :=
  h.ofTree (Tree.ofText_pretty hnumbers)

/-- What is read from the tree of a value is read from its compact text. -/
theorem Reads.ofText_compress {decoder : Decoder α} {v : Value} {a : α} (h : decoder.Reads v a)
    (hnumbers : ∀ n ∈ v.numbers, n.ReadsBack) : decoder.ofText v.compress = .ok a :=
  h.ofTree (Tree.ofText_compress hnumbers)

end Decoder

end Json

end Chartboard
