import Chartboard.Proofs.Json.Agreement
import Chartboard.Proofs.Query.Compilation
import Chartboard.Proofs.SortedMap.Lookup
import Chartboard.Proofs.Text.Bytes
import Chartboard.Wire.Chart

/-!
# The order of filters

A filter set is read from an object or starts without filters, and columns are filtered and freed
in any order. The filters of the set then stand in the order of the bytes of their columns, each
column once, with the value that was last given to it. So it makes no difference to a request how
the filters came about.
-/

namespace Chartboard

open Json (Decoder Medium Tree Value)

/-! ## Histories of filters -/

/-- One change of a filter set. -/
inductive FilterEdit where
  /-- A column is filtered by a value. -/
  | insert (column : String) (value : Value)
  /-- A column is filtered no more. -/
  | remove (column : String)
  /-- No column is filtered any more. -/
  | clear

namespace FilterEdit

/-- What a change makes of a column: its value, or none where it is freed, and nothing at all where
the change is about other columns. -/
def leaves? (column : String) : FilterEdit → Option (Option Value)
  | insert name value => if column = name then some (some value) else none
  | remove name => if column = name then some none else none
  | clear => some none

/-- The value of a column after some changes. The last change that is about it decides. -/
def lastValue? (edits : List FilterEdit) (column : String) : Option Value :=
  (edits.reverse.findSome? (leaves? column)).getD none

/-- The newest change decides where it is about the column. -/
theorem lastValue?_concat (edits : List FilterEdit) (edit : FilterEdit) (column : String) :
    lastValue? (edits ++ [edit]) column =
      (edit.leaves? column).getD (lastValue? edits column) := by
  unfold lastValue?
  rw [List.reverse_concat, List.findSome?_cons]
  cases edit.leaves? column with
  | none => rfl
  | some left => rfl

/-- The writes of the members of an object. -/
def ofMembers (members : List (String × Value)) : List FilterEdit :=
  members.map fun member => insert member.1 member.2

end FilterEdit

namespace FilterSet

/-- The filter set after a change. -/
def edit (set : FilterSet) : FilterEdit → FilterSet
  | .insert column value => set.insert column value
  | .remove column => set.erase column
  | .clear => ∅

/-- The filter set after some changes. -/
def editAll (set : FilterSet) (edits : List FilterEdit) : FilterSet :=
  edits.foldl edit set

/-- A filter set that begins without filters or is read from the members of an object. -/
inductive Begins : FilterSet → List (String × Value) → Prop
  /-- There are no filters. -/
  | empty : Begins ∅ []
  /-- The filters are those of an object; in a text, `outside` containers are open around it. -/
  | read {outside : Nat} {m : Medium} {t : Tree} {set : FilterSet}
      {members : List (String × Value)}
      (hmembers : Decoder.entries (.anything (outside + 1)) m t = .ok members)
      (hset : decoder outside m t = .ok set) : Begins set members

/-- The filter set has come about by some changes, after those of the object that it was read
from. -/
def Follows (set : FilterSet) (edits : List FilterEdit) : Prop :=
  ∃ first members later, Begins first members ∧ edits = FilterEdit.ofMembers members ++ later ∧
    set = editAll first later

/-- Changes can be made in two parts. -/
theorem editAll_append (set : FilterSet) (edits more : List FilterEdit) :
    set.editAll (edits ++ more) = (set.editAll edits).editAll more :=
  List.foldl_append

/-- An object is read by writing its members, one after the other. -/
theorem editAll_of_begins {set : FilterSet} {members : List (String × Value)}
    (h : Begins set members) : set = editAll ∅ (FilterEdit.ofMembers members) := by
  cases h with
  | empty => rfl
  | read hmembers hset =>
    unfold decoder at hset
    rw [hmembers] at hset
    cases hset
    rw [editAll, FilterEdit.ofMembers, List.foldl_map]
    rfl

/-- A filter set is what its changes make of the empty one, those of its object included. -/
theorem editAll_of_follows {set : FilterSet} {edits : List FilterEdit} (h : Follows set edits) :
    set = editAll ∅ edits := by
  obtain ⟨first, members, later, hfirst, rfl, rfl⟩ := h
  rw [editAll_append, ← editAll_of_begins hfirst]

/-! ## Values of columns -/

/-- A change leaves its own value under its column and all others as they are. -/
theorem get?_edit (set : FilterSet) (change : FilterEdit) (column : String) :
    (set.edit change).get? column = (change.leaves? column).getD (set.get? column) := by
  cases change with
  | insert name value =>
    rw [edit, SortedMap.get?_insert, FilterEdit.leaves?]
    split
    · rfl
    · rfl
  | remove name =>
    rw [edit, SortedMap.get?_erase, FilterEdit.leaves?]
    split
    · rfl
    · rfl
  | clear => rfl

/-- A column has the value that was last given to it, if it was not freed later. -/
theorem get?_of_follows {set : FilterSet} {edits : List FilterEdit} (h : Follows set edits)
    (column : String) : set.get? column = FilterEdit.lastValue? edits column := by
  rw [editAll_of_follows h]
  clear h
  induction edits using List.reverseRecOn with
  | nil => rfl
  | append_singleton edits edit ih =>
    rw [editAll_append, FilterEdit.lastValue?_concat, ← ih]
    exact get?_edit _ edit column

/-! ## Filters in order -/

/-- The filters are listed by strictly ascending names of columns. -/
theorem ascending_toFilters (set : FilterSet) :
    set.toFilters.Pairwise fun f g => Text.bytes f.column < Text.bytes g.column := by
  unfold toFilters
  rw [List.pairwise_map]
  exact set.ascending.imp fun hlt => Text.bytes_lt hlt

/-- A column has one filter if it has a value, and none otherwise. -/
theorem filter_toFilters (set : FilterSet) (column : String) :
    set.toFilters.filter (fun f => f.column = column) =
      ((set.get? column).map (Filter.mk column)).toList := by
  have hentries := congrArg (List.map fun e => Filter.mk e.1 e.2) (set.filter_entries column)
  rw [toFilters, List.filter_map]
  refine hentries.trans ?_
  cases set.get? column with
  | none => rfl
  | some value => rfl

/-- A set is known by its filters. -/
theorem toFilters_injective {set other : FilterSet} (h : set.toFilters = other.toFilters) :
    set = other := by
  refine SortedMap.ext_get? fun column => ?_
  have hcolumn := congrArg (List.filter fun f => f.column = column) h
  rw [filter_toFilters, filter_toFilters] at hcolumn
  have hvalue := congrArg List.head? hcolumn
  rw [Option.head?_toList, Option.head?_toList] at hvalue
  exact Option.map_injective (fun _ _ heq => (Filter.mk.inj heq).2) hvalue

/-- The filters are about the same columns, by values that agree. -/
def Agree (filters others : List Filter) : Prop :=
  List.Forall₂ (fun f g => f.column = g.column ∧ f.value.same g.value) filters others

/-- Members under the same names, with values that agree, are the same members. -/
theorem sameMembers_of_forall₂ {xs ys : List (String × Value)}
    (h : List.Forall₂ (fun e f => e.1 = f.1 ∧ e.2.same f.2) xs ys) : Value.sameMembers xs ys := by
  induction h with
  | nil => rfl
  | cons hfirst _ ih =>
    exact Bool.and_eq_true_iff.2
      ⟨Bool.and_eq_true_iff.2 ⟨beq_iff_eq.2 hfirst.1, hfirst.2⟩, ih⟩

/-- Sets that agree in the value of each column are the same set and list the same filters. -/
theorem agree_of_values {a b : FilterSet}
    (h : ∀ column, Option.Rel (fun v w => v.same w) (a.get? column) (b.get? column)) :
    a.same b ∧ Agree a.toFilters b.toFilters := by
  have hentries := SortedMap.forall₂_of_lookup a.ascending b.ascending h
  refine ⟨sameMembers_of_forall₂ hentries, ?_⟩
  rw [Agree, toFilters, toFilters, List.forall₂_map_left_iff, List.forall₂_map_right_iff]
  exact hentries

end FilterSet

/-- The filter set has no part in a request but for its filters. -/
theorem Spec.compile_of_filters (s : Spec) (limits : QueryLimits) (set other : FilterSet) :
    s.compile limits other =
      (fun request => { request with filters := other.toFilters }) <$> s.compile limits set := by
  rw [s.compile_eq_map limits set, s.compile_eq_map limits other]
  cases s.compile {} ∅ with
  | error e => rfl
  | ok request => rfl

namespace FilterSet

/-- The filters of a set stand in the order of the bytes of their columns, and each column with a
value has one filter, by the value that was last given to it. Sets have come about by histories that
leave the same values exactly if they are the same set, and exactly then they compile to the same
request, if a specification compiles at all. Where the values agree, so do the sets and the filters
of the requests, which are the same otherwise. -/
theorem ordered_by_column :
    (∀ set edits, Follows set edits →
      set.toFilters.Pairwise (fun f g => Text.bytes f.column < Text.bytes g.column) ∧
      ∀ column, set.toFilters.filter (fun f => f.column = column) =
        ((FilterEdit.lastValue? edits column).map (Filter.mk column)).toList) ∧
    ∀ set edits other edits', Follows set edits → Follows other edits' →
      ((∀ column, FilterEdit.lastValue? edits column = FilterEdit.lastValue? edits' column) ↔
        set = other) ∧
      (∀ (s : Spec) (limits : QueryLimits),
        ((∀ column, FilterEdit.lastValue? edits column = FilterEdit.lastValue? edits' column) →
          s.compile limits set = s.compile limits other) ∧
        ∀ request, s.compile limits set = .ok request → s.compile limits other = .ok request →
          ∀ column, FilterEdit.lastValue? edits column = FilterEdit.lastValue? edits' column) ∧
      ((∀ column, Option.Rel (fun v w => v.same w) (FilterEdit.lastValue? edits column)
          (FilterEdit.lastValue? edits' column)) →
        set.same other ∧ Agree set.toFilters other.toFilters ∧
        ∀ (s : Spec) (limits : QueryLimits), s.compile limits other =
          (fun request => { request with filters := other.toFilters }) <$>
            s.compile limits set) := by
  refine ⟨fun set edits h => ⟨ascending_toFilters set, fun column => ?_⟩,
    fun set edits other edits' h h' => ?_⟩
  · rw [filter_toFilters, get?_of_follows h]
  have hsets : (∀ column, FilterEdit.lastValue? edits column =
      FilterEdit.lastValue? edits' column) ↔ set = other := by
    simp only [← get?_of_follows h, ← get?_of_follows h']
    exact ⟨SortedMap.ext_get?, fun heq column => by rw [heq]⟩
  refine ⟨hsets, fun s limits => ⟨fun hvalues => ?_, fun request hfirst hsecond => ?_⟩,
    fun hagree => ?_⟩
  · rw [hsets.1 hvalues]
  · -- The filters of a request are those of its set, and they tell the set.
    refine hsets.2 (toFilters_injective ?_)
    rw [← Spec.filters_of_compile hfirst, ← Spec.filters_of_compile hsecond]
  · have hsame : set.same other ∧ Agree set.toFilters other.toFilters := by
      refine agree_of_values fun column => ?_
      rw [get?_of_follows h, get?_of_follows h']
      exact hagree column
    exact ⟨hsame.1, hsame.2, fun s limits => s.compile_of_filters limits set other⟩

/-- An object that filters a region twice. -/
def regionObject : Tree :=
  .object [(.ok "region", .string "West"), (.ok "year", .number (.int 2024)),
    (.ok "region", .string "East")] none

/-- The members of the object. -/
def regionMembers : List (String × Value) :=
  [("region", .string "West"), ("year", .int 2024), ("region", .string "East")]

/-- What is done after the object has been read. -/
def channelLater : List FilterEdit :=
  [.insert "channel" (.string "Online"), .remove "year"]

/-- The same filters in another order. -/
def channelFirst : List FilterEdit :=
  [.insert "year" (.int 2023), .insert "channel" (.string "Shop"), .clear,
    .insert "channel" (.string "Online"), .insert "region" (.string "East")]

/-- The filters of the object, changed later. -/
def regionsRead : FilterSet :=
  editAll (SortedMap.ofList regionMembers) channelLater

/-- The filters set one by one. -/
def regionsWritten : FilterSet :=
  editAll ∅ channelFirst

/-- The filters of both histories are listed in order, and compile to the same request. -/
theorem ordered_by_column_regions :
    Follows regionsRead (FilterEdit.ofMembers regionMembers ++ channelLater) ∧
    Follows regionsWritten channelFirst ∧
    regionsRead.toFilters.Pairwise (fun f g => Text.bytes f.column < Text.bytes g.column) ∧
    regionsRead.toFilters.filter (fun f => f.column = "region") = [⟨"region", .string "East"⟩] ∧
    regionsRead = regionsWritten ∧
    ∀ (s : Spec) (limits : QueryLimits),
      s.compile limits regionsRead = s.compile limits regionsWritten := by
  have hbegins : Begins (SortedMap.ofList regionMembers) regionMembers :=
    .read (show Decoder.entries (.anything 1) .text regionObject = .ok regionMembers from rfl) rfl
  have hread : Follows regionsRead (FilterEdit.ofMembers regionMembers ++ channelLater) :=
    ⟨_, _, channelLater, hbegins, rfl, rfl⟩
  have hwritten : Follows regionsWritten channelFirst :=
    ⟨∅, [], channelFirst, .empty, rfl, rfl⟩
  have hvalues : ∀ column,
      FilterEdit.lastValue? (FilterEdit.ofMembers regionMembers ++ channelLater) column =
        FilterEdit.lastValue? channelFirst column := by
    intro column
    by_cases hchannel : column = "channel"
    · rw [hchannel]
      rfl
    · by_cases hregion : column = "region"
      · rw [hregion]
        rfl
      · by_cases hyear : column = "year"
        · rw [hyear]
          rfl
        · simp [FilterEdit.lastValue?, FilterEdit.ofMembers, FilterEdit.leaves?, regionMembers,
            channelLater, channelFirst, hchannel, hregion, hyear, List.findSome?_cons]
  obtain ⟨hascending, hfilters⟩ := ordered_by_column.1 _ _ hread
  obtain ⟨hsets, hrequests, -⟩ := ordered_by_column.2 _ _ _ _ hread hwritten
  exact ⟨hread, hwritten, hascending, hfilters "region", hsets.1 hvalues,
    fun s limits => (hrequests s limits).1 hvalues⟩

end FilterSet

end Chartboard
