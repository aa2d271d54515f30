import Chartboard.Proofs.Data.Detection
import Chartboard.Proofs.Ledger.FirstKeys
import Chartboard.Proofs.Text.Bytes
import Mathlib.Data.Finset.Card
import Mathlib.Data.Finset.Dedup

/-!
# What a sample says of a column

The detected type of a column is the first one that accepts all texts of the sample, and its numbers
are those of the sampled cells: how many of them are blank or missing, how many different texts
there are, and which of these come first and last by their bytes. Nothing of this depends on the
order of the rows. A larger sample of a column with a text may only refuse more types, so it never
leads to one that is tried earlier.
-/

namespace Chartboard

namespace DetectedType

/-- How many types are tried before the type. -/
def rank (type : DetectedType) : Nat :=
  candidates.idxOf type

/-- The type is that of some texts. -/
structure IsTypeOf (type : DetectedType) (texts : List String) : Prop where
  /-- Without texts it is plain text. -/
  text_of_nil : texts = [] → type = text
  /-- It accepts every text. -/
  accepting : ∀ s ∈ texts, type.accepts s
  /-- Every type that is tried earlier refuses a text. -/
  first : texts ≠ [] → ∀ earlier : DetectedType, earlier.rank < type.rank →
    ∃ s ∈ texts, ¬earlier.accepts s

variable {type type' earlier : DetectedType} {texts texts' : List String}

/-- No two types are tried at the same place. -/
theorem rank_injective (h : type.rank = type'.rank) : type = type' := by
  cases type <;> cases type' <;> first | rfl | exact absurd h (by decide)

/-- What is tried before the first type of a kind is not of the kind. -/
theorem not_of_rank_lt {p : DetectedType → Bool} (h : candidates.find? p = some type)
    (hearlier : earlier.rank < type.rank) : p earlier = false := by
  obtain ⟨-, before, after, hcandidates, hbefore⟩ := List.find?_eq_some_iff_append.1 h
  have hrank : type.rank ≤ before.length := by
    unfold rank
    rw [hcandidates, List.idxOf_append]
    split_ifs with hmem
    · exact Nat.le_of_lt (List.idxOf_lt_length_of_mem hmem)
    · simp
  have hmem : earlier ∈ before := by
    by_contra hmem
    have hlate : before.length ≤ earlier.rank := by
      unfold rank
      rw [hcandidates, List.idxOf_append, if_neg hmem]
      omega
    omega
  simpa using hbefore earlier hmem

/-- The first type that accepts all texts is their type. -/
theorem isTypeOf_ofTexts (texts : List String) : (ofTexts texts).IsTypeOf texts where
  text_of_nil h := by
    subst h
    rfl
  accepting s hs := accepts_of_mem hs
  first hne earlier hearlier := by
    unfold ofTexts at hearlier
    rw [if_neg (by simpa using hne)] at hearlier
    have hrefused : texts.all earlier.accepts = false := by
      cases hfound : candidates.find? fun type => texts.all type.accepts with
      | some type =>
        rw [hfound] at hearlier
        exact not_of_rank_lt hfound hearlier
      | none =>
        rw [hfound] at hearlier
        have hmem : earlier ∈ candidates := List.idxOf_lt_length_iff.1 hearlier
        simpa using List.find?_eq_none.1 hfound earlier hmem
    simpa using hrefused

/-- A type that refuses none of the texts of another type is not tried before it. -/
theorem IsTypeOf.rank_le (h : type.IsTypeOf texts) (h' : type'.IsTypeOf texts')
    (hne : texts ≠ []) (hsub : texts ⊆ texts') : type.rank ≤ type'.rank := by
  by_contra hlt
  obtain ⟨s, hs, hrefused⟩ := h.first hne type' (Nat.lt_of_not_le hlt)
  exact hrefused (h'.accepting s (hsub hs))

/-- Texts have one type, in whatever order they stand and however often. -/
theorem IsTypeOf.eq_of_same (h : type.IsTypeOf texts) (h' : type'.IsTypeOf texts')
    (hsub : texts ⊆ texts') (hsub' : texts' ⊆ texts) : type = type' := by
  by_cases hne : texts = []
  · subst hne
    rw [h.text_of_nil rfl, h'.text_of_nil (List.subset_nil.1 hsub')]
  · have hne' : texts' ≠ [] := fun hnil => hne (List.subset_nil.1 (hnil ▸ hsub))
    exact rank_injective (Nat.le_antisymm (h.rank_le h' hne hsub) (h'.rank_le h hne' hsub'))

end DetectedType

/-! ## Numbers of a column -/

/-- The numbers are those of some cells. -/
structure ColumnStats.IsStatsOf (stats : ColumnStats) (cells : List (Option String)) : Prop where
  /-- They count the cells without a text. -/
  nullCount : stats.nullCount = cells.count none
  /-- They count the different texts. -/
  distinctCount : stats.distinctCount = (cells.filterMap id).toFinset.card
  /-- The least text is the one whose bytes come first. -/
  least : ∀ s, stats.least = some s ↔
    some s ∈ cells ∧ ∀ t, some t ∈ cells → Text.bytes s ≤ Text.bytes t
  /-- The greatest text is the one whose bytes come last. -/
  greatest : ∀ s, stats.greatest = some s ↔
    some s ∈ cells ∧ ∀ t, some t ∈ cells → Text.bytes t ≤ Text.bytes s

namespace ColumnStats

/-- The lesser of two texts is kept. -/
theorem lesser_some (s t : String) : lesser (some s) t = some (min s t) := by
  show some (if t < s then t else s) = _
  split_ifs with h
  · rw [min_eq_right h.le]
  · rw [min_eq_left (not_lt.1 h)]

/-- The greater of two texts is kept. -/
theorem greater_some (s t : String) : greater (some s) t = some (max s t) := by
  show some (if s < t then t else s) = _
  split_ifs with h
  · rw [max_eq_right h.le]
  · rw [max_eq_left (not_lt.1 h)]

/-- What is kept of some texts is the least one. -/
theorem foldl_lesser (texts : List String) : texts.foldl lesser none = texts.min? := by
  cases texts with
  | nil => rfl
  | cons s rest => exact (List.foldl_hom some lesser_some).trans List.min?_cons'.symm

/-- What is kept of some texts is the greatest one. -/
theorem foldl_greater (texts : List String) : texts.foldl greater none = texts.max? := by
  cases texts with
  | nil => rfl
  | cons s rest => exact (List.foldl_hom some greater_some).trans List.max?_cons'.symm

/-- Cells in another order have the same numbers. -/
theorem IsStatsOf.eq_of_perm {stats stats' : ColumnStats} {cells cells' : List (Option String)}
    (h : stats.IsStatsOf cells) (h' : stats'.IsStatsOf cells') (hperm : cells.Perm cells') :
    stats = stats' := by
  have hmem : ∀ cell, cell ∈ cells ↔ cell ∈ cells' := fun cell => hperm.mem_iff
  have hnulls : stats.nullCount = stats'.nullCount := by
    rw [h.nullCount, h'.nullCount, hperm.count_eq]
  have hdistinct : stats.distinctCount = stats'.distinctCount := by
    rw [h.distinctCount, h'.distinctCount, List.toFinset_eq_of_perm _ _ (hperm.filterMap id)]
  have hleast : stats.least = stats'.least :=
    Option.ext fun s => by simp only [h.least, h'.least, hmem]
  have hgreatest : stats.greatest = stats'.greatest :=
    Option.ext fun s => by simp only [h.greatest, h'.greatest, hmem]
  cases stats
  cases stats'
  cases hnulls
  cases hdistinct
  cases hleast
  cases hgreatest
  rfl

end ColumnStats

/-- A scan of some cells has their statistics. -/
theorem ColumnScan.isStatsOf_ofCells (cells : List (Option String)) :
    (ofCells cells).stats.IsStatsOf cells := by
  have htexts : (ofCells cells).texts = cells.filterMap id := by
    unfold ofCells
    rw [foldl_push]
    exact List.nil_append _
  have hmem : ∀ s, s ∈ cells.filterMap id ↔ some s ∈ cells := fun s => by simp
  constructor
  · rw [nullCount_ofCells]
    exact List.countP_congr fun cell _ => by cases cell <;> simp
  · show (ofCells cells).texts.eraseDups.length = _
    rw [htexts, ← List.toFinset_card_of_nodup (nodup_eraseDups _)]
    exact congrArg Finset.card (Finset.ext fun s => by simp)
  · intro s
    show (ofCells cells).texts.foldl ColumnStats.lesser none = some s ↔ _
    rw [htexts, ColumnStats.foldl_lesser, List.min?_eq_some_iff]
    simp only [hmem, Text.bytes_le_iff]
  · intro s
    show (ofCells cells).texts.foldl ColumnStats.greater none = some s ↔ _
    rw [htexts, ColumnStats.foldl_greater, List.max?_eq_some_iff]
    simp only [hmem, Text.bytes_le_iff]

namespace DetectedSchema

/-- Rows whose samples differ in their order alone have the same columns. -/
theorem ofRows_of_perm {sampleSize sampleSize' : Nat} {headers : List String}
    {rows rows' : List (List String)}
    (h : (rows'.take (max 1 sampleSize')).Perm (rows.take (max 1 sampleSize))) :
    ofRows sampleSize' headers rows' = ofRows sampleSize headers rows := by
  have hcolumns : (ofRows sampleSize' headers rows').columns =
      (ofRows sampleSize headers rows).columns := by
    refine List.ext_getElem? fun place => ?_
    have htexts := h.filterMap (cellText? · place)
    have htype := (DetectedType.isTypeOf_ofTexts _).eq_of_same (DetectedType.isTypeOf_ofTexts _)
      htexts.subset htexts.symm.subset
    have hstats := (ColumnScan.isStatsOf_ofCells _).eq_of_perm (ColumnScan.isStatsOf_ofCells _)
      (h.map (cellText? · place))
    rw [getElem?_columns, getElem?_columns]
    unfold sampleTexts effectiveSampleSize
    rw [htype, hstats]
  exact congrArg mk hcolumns

/-- The detected type of a column is the first one that accepts all texts of the sample, and its
numbers are those of the sampled cells. Other rows with the same sample, in any order, have the same
columns, and a sample of more rows than one with a text leads to no type that is tried earlier. -/
theorem detected_from_sample (sampleSize : Nat) (headers : List String)
    (rows : List (List String)) :
    let sample := rows.take (max 1 sampleSize)
    let s := ofRows sampleSize headers rows
    (∀ place header, headers[place]? = some header → ∃ column : DetectedColumn,
      s.columns[place]? = some column ∧ column.name = header ∧
      column.type.IsTypeOf (sample.filterMap (cellText? · place)) ∧
      column.stats.IsStatsOf (sample.map (cellText? · place))) ∧
    (∀ sampleSize' rows', (rows'.take (max 1 sampleSize')).Perm sample →
      ofRows sampleSize' headers rows' = s) ∧
    (∀ sampleSize' rows', sample ⊆ rows'.take (max 1 sampleSize') →
      ∀ place column column', s.columns[place]? = some column →
      (ofRows sampleSize' headers rows').columns[place]? = some column' →
      (∃ row ∈ sample, (cellText? row place).isSome) → column.type.rank ≤ column'.type.rank) := by
  intro sample s
  refine ⟨fun place header hheader => ?_, fun sampleSize' rows' hperm => ?_, ?_⟩
  · have hcolumn := getElem?_columns sampleSize headers rows place
    rw [hheader, Option.map_some] at hcolumn
    exact ⟨_, hcolumn, rfl, DetectedType.isTypeOf_ofTexts _, ColumnScan.isStatsOf_ofCells _⟩
  · exact ofRows_of_perm hperm
  · intro sampleSize' rows' hsub place column column' hcolumn hcolumn' hrow
    rw [getElem?_columns, Option.map_eq_some_iff] at hcolumn hcolumn'
    obtain ⟨header, -, rfl⟩ := hcolumn
    obtain ⟨header', -, rfl⟩ := hcolumn'
    obtain ⟨row, hmem, htext⟩ := hrow
    obtain ⟨text, htext⟩ := Option.isSome_iff_exists.1 htext
    refine (DetectedType.isTypeOf_ofTexts _).rank_le (DetectedType.isTypeOf_ofTexts _) ?_ ?_
    · exact List.ne_nil_of_mem (List.mem_filterMap.2 ⟨row, hmem, htext⟩)
    · exact List.filterMap_subset _ hsub

end DetectedSchema

end Chartboard
