import Chartboard.Proofs.Dashboard.Identifiers
import Chartboard.Proofs.Json.Agreement
import Chartboard.Proofs.Wire.Records
import Chartboard.Wire.Document

/-!
# Documents read back

A written document is read back as it was: an absent identifier, unset fields and a null layout are
left out and come back as what they were, and integers and doubles are kept apart.
-/

namespace Chartboard

open Json (Decoder Fills Number Value)

/-! ## Names -/

/-- A chart kind is read back from its name. -/
theorem ChartKind.reads_toJson (k : ChartKind) : decoder.Reads k.toJson k := by
  cases k with
  | _ => rfl

/-- An aggregation is read back from its name. -/
theorem Aggregation.reads_toJson (a : Aggregation) : decoder.Reads a.toJson a := by
  cases a with
  | _ => rfl

/-- A sort order is read back from its name. -/
theorem SortOrder.reads_toJson (o : SortOrder) : decoder.Reads o.toJson o := by
  cases o with
  | _ => rfl

/-! ## Specifications -/

/-- A sorting is read back from its members. -/
theorem Sorting.reads_toJson (s : Sorting) : decoder.Reads s.toJson s :=
  Fills.reads_record "SortSpec" (by decide)
    (.optional (fun column _ => ⟨Decoder.reads_string column, nofun⟩) rfl
      (.defaulted (SortOrder.reads_toJson s.order) (.done s)))

/-- A specification is read back, whatever is set in it. -/
theorem Spec.reads_toJson {s : Spec} (hbins : ∀ n, s.bins = some n → n < Nat.pow 2 32) :
    decoder.Reads s.toJson s := by
  have hcolumn : ∀ (field : Option String) (column : String), field = some column →
      Decoder.string.Reads (.string column) column ∧ Value.string column ≠ .null :=
    fun _ column _ => ⟨Decoder.reads_string column, nofun⟩
  rw [Spec.toJson, Value.written_naturals]
  simp only [List.append_assoc]
  exact Fills.reads_record "VisualizationSpec" (by decide)
    (.defaulted (ChartKind.reads_toJson s.kind)
    (.optional (hcolumn s.groupBy) rfl
    (.optional (hcolumn s.subGroup) rfl
    (.optional (hcolumn s.valueColumn) rfl
    (.optional (hcolumn s.secondaryValueColumn) rfl
    (.defaulted (Aggregation.reads_toJson s.aggregation)
    (.optional (fun sort _ => ⟨Sorting.reads_toJson sort, nofun⟩) rfl
    (.defaulted (Decoder.reads_bool s.stacked)
    (.optional (fun n hn => ⟨Decoder.reads_natural (hbins n hn), nofun⟩) rfl
    (.defaulted (Decoder.reads_bool s.conditionalColoring) (.done s)))))))))))

/-- No numbers are written for a sorting. -/
theorem Sorting.numbers_toJson (s : Sorting) : s.toJson.numbers = [] := by
  rw [toJson, Value.numbers, Value.membersNumbers_append,
    Value.membersNumbers_optionalMember (fun _ => rfl)]
  rfl

/-- Only the bins of a specification are numbers. -/
theorem Spec.numbers_toJson (s : Spec) :
    s.toJson.numbers = (s.bins.map fun n : Nat => Number.int n).toList := by
  have htext := @Value.membersNumbers_optionalMember String .string fun _ => rfl
  rw [toJson, Value.written_naturals]
  simp only [Value.numbers, Value.membersNumbers_append, Value.membersNumbers_naturals, htext,
    Value.membersNumbers_optionalMember Sorting.numbers_toJson]
  exact List.append_nil _

/-! ## Filters -/

/-- Filters are read back where their nesting leaves room for what is outside them. -/
theorem FilterSet.reads_toJson {set : FilterSet} (hcanonical : set.isCanonical) {outside : Nat}
    (hdepth : set.toJson.depth ≤ Decoder.maxDepth - outside) :
    (decoder outside).Reads set.toJson set := by
  have hentries : (Decoder.entries (.anything (outside + 1))).Reads set.toJson set.entries := by
    refine Decoder.reads_entries fun e he => ?_
    have hvalue : e.2.isCanonical := Value.membersCanonical_iff.1 hcanonical e he
    have hle := Value.depth_le_membersDepth he
    rw [toJson, Value.depth] at hdepth
    exact Decoder.reads_anything hvalue (by omega)
  show SortedMap.ofList <$> Decoder.entries _ .text (Json.Tree.ofValue set.toJson) = _
  rw [hentries]
  exact congrArg Except.ok set.ofList_entries

/-! ## Documents -/

/-- An identifier is read back from its text. -/
theorem Uuid.reads_text (u : Uuid) : decoder.Reads (.string u.text) u := by
  unfold Decoder.Reads decoder
  rw [Json.Tree.ofValue]
  dsimp only
  rw [ofText_text]
  rfl

namespace Document

/-- The document has the widths and forms that documents are held in: numbers of bins have 32 bits,
and objects in filters and in the layout are sorted, their integers have 64 bits and their doubles
are finite. -/
structure IsCanonical (d : Document) : Prop where
  /-- The numbers of bins have 32 bits. -/
  bins : ∀ s ∈ d.charts, ∀ n, s.bins = some n → n < Nat.pow 2 32
  /-- The values of the filters are canonical. -/
  filters : d.filters.isCanonical
  /-- The layout is canonical. -/
  layout : d.layout.isCanonical

variable {d : Document}

/-- The members of a written layout. -/
def layoutMembers (layout : Value) : List (String × Value) :=
  match layout with
  | .null => []
  | layout => [("layout", layout)]

/-- The members of a document, with an identifier and a layout only where there is one. -/
theorem toJson_eq (d : Document) :
    d.toJson = .object (Value.optionalMember "id" (d.id.map fun u => .string u.text)
      ++ (("name", .string d.name) :: ("dataset_id", .string d.datasetId)
        :: ("filters", d.filters.toJson) :: ("charts", .array (d.charts.map Spec.toJson))
        :: layoutMembers d.layout)) := by
  rw [toJson, List.append_assoc]
  rfl

/-- A layout that is not null is the only member of its own. -/
theorem layoutMembers_of_ne_null {layout : Value} (h : layout ≠ .null) :
    layoutMembers layout = [("layout", layout)] := by
  cases layout with
  | null => exact absurd rfl h
  | _ => rfl

/-- A layout is nested as deep as it is, and one that is not written counts nothing. -/
theorem membersDepth_layoutMembers (layout : Value) :
    Value.membersDepth (layoutMembers layout) = layout.depth := by
  by_cases h : layout = .null
  · rw [h, layoutMembers, Value.membersDepth, Value.depth]
    all_goals nofun
  · rw [layoutMembers_of_ne_null h, Value.membersDepth, Value.membersDepth, Nat.max_zero]

/-- The filters and the layout are nested less deep than the document. -/
theorem depth_of_toJson {depth : Nat} (h : d.toJson.depth ≤ depth + 1) :
    d.filters.toJson.depth ≤ depth ∧ d.layout.depth ≤ depth := by
  rw [toJson_eq, Value.depth, Nat.add_le_add_iff_right, Value.membersDepth_append] at h
  simp only [Value.membersDepth, membersDepth_layoutMembers] at h
  omega

/-- A null layout has no member and is what a document has without one. -/
theorem fills_layout (hcanonical : d.layout.isCanonical)
    (hdepth : d.layout.depth ≤ Decoder.maxDepth - 1) :
    Fills [.defaulted "layout" (.anything 1) fun layout d => { d with layout }]
      (layoutMembers d.layout) { d with layout := .null } d := by
  by_cases h : d.layout = .null
  · rw [h]
    have hd : { d with layout := .null } = d := by rw [← h]
    rw [hd]
    exact .lacking rfl (.done d)
  · rw [layoutMembers_of_ne_null h]
    exact .defaulted (Decoder.reads_anything hcanonical hdepth) (.done d)

/-- The tree of a document is read as the document. -/
theorem reads_toJson (hcanonical : d.IsCanonical) (hdepth : d.toJson.depth ≤ Decoder.maxDepth) :
    decoder.Reads d.toJson d := by
  obtain ⟨hfilters, hlayout⟩ := depth_of_toJson hdepth
  have hcharts : (Decoder.list Spec.decoder).Reads (.array (d.charts.map Spec.toJson)) d.charts :=
    Decoder.reads_list fun s hs => Spec.reads_toJson (hcanonical.bins s hs)
  rw [toJson_eq]
  -- Reading begins with a document that has nothing, so what is left out stays as it is there.
  exact Fills.reads_record "DashboardDocument" (by decide)
    (.optional (fun u _ => ⟨Uuid.reads_text u, nofun⟩) rfl
    (.required (Decoder.reads_string d.name)
    (.required (Decoder.reads_string d.datasetId)
    (.defaulted (FilterSet.reads_toJson hcanonical.filters hfilters)
    (.defaulted hcharts (fills_layout hcanonical.layout hlayout))))))

/-! ## Numbers -/

/-- The numbers that are written for a layout are its own. -/
theorem membersNumbers_layoutMembers (layout : Value) :
    Value.membersNumbers (layoutMembers layout) = layout.numbers := by
  by_cases h : layout = .null
  · rw [h]
    rfl
  · rw [layoutMembers_of_ne_null h, Value.membersNumbers, Value.membersNumbers, List.append_nil]

/-- The numbers of a document are those of its filters, its charts and its layout. -/
theorem numbers_toJson (d : Document) :
    d.toJson.numbers = d.filters.toJson.numbers
      ++ (Value.itemsNumbers (d.charts.map Spec.toJson) ++ d.layout.numbers) := by
  have hid := Value.membersNumbers_optionalMember
    (fun u : Uuid => (rfl : (Value.string u.text).numbers = [])) "id" d.id
  rw [toJson_eq, Value.numbers, Value.membersNumbers_append, hid]
  simp only [Value.membersNumbers, membersNumbers_layoutMembers]
  rfl

/-- The integers of a canonical document stay integers. -/
theorem IsCanonical.inRange (hcanonical : d.IsCanonical) {i : Int}
    (h : .int i ∈ d.toJson.numbers) : Number.inRange i := by
  rw [numbers_toJson, List.mem_append, List.mem_append] at h
  rcases h with hfilters | hcharts | hlayout
  · exact Value.inRange_of_mem_membersNumbers hcanonical.filters hfilters
  · obtain ⟨v, hv, hi⟩ := Value.mem_itemsNumbers hcharts
    obtain ⟨s, hs, rfl⟩ := List.mem_map.1 hv
    rw [Spec.numbers_toJson] at hi
    exact Number.inRange_of_mem_naturals
      (fun n hn => (hcanonical.bins s hs n hn).trans (by decide)) hi
  · exact Value.inRange_of_mem_numbers hcanonical.layout hlayout

/-- A document is read from its text as it was written: the absent identifier, the unset fields of
the charts and the null layout are what they were, and integers and doubles stay apart. The text
nests at most as deep as can be read, and each double in it is printed so that it is read back. -/
theorem read_written (hcanonical : d.IsCanonical) (hdepth : d.toJson.depth ≤ Decoder.maxDepth)
    (hfloats : ∀ x, .float x ∈ d.toJson.numbers → (Number.float x).ReadsBack) :
    Document.ofText d.text = .ok d := by
  refine (reads_toJson hcanonical hdepth).ofText fun n hn => ?_
  cases n with
  | int i => exact Number.readsBack_int (hcanonical.inRange hn)
  | float x => exact hfloats x hn

/-- A document with a stored identifier, a name with a quote, a break and characters of two and four
bytes, an integer and a double among its filters, charts with fields that are set, unset and of no
use to their kind, and a layout of several levels. -/
def salesReport : Document where
  id := some (Uuid.ofNat 0xc0ffee)
  name := "\"Umsätze\"\n😀"
  datasetId := "ds-42"
  filters := SortedMap.ofList
    [("region", .string "East"), ("rating", .number (.float 1.5)),
      ("years", .array [.int 2024, .int (-1), .null])]
  charts :=
    [{ kind := .histogram, valueColumn := some "price", aggregation := .count, bins := some 5,
       sort := some { order := .desc }, stacked := true }, { groupBy := some "region" }]
  layout := .object [("lg", .array [.object [("h", .int 4), ("i", .string "0")]])]

/-- The report on sales is read back from its own text. -/
theorem read_written_salesReport :
    salesReport.IsCanonical ∧ salesReport.toJson.depth ≤ Decoder.maxDepth ∧
      (∀ x, .float x ∈ salesReport.toJson.numbers → (Number.float x).ReadsBack) ∧
      Document.ofText salesReport.text = .ok salesReport := by
  have hbins : ∀ s ∈ salesReport.charts, ∀ n ∈ s.bins, n < Nat.pow 2 32 := by decide
  have hcanonical : salesReport.IsCanonical := ⟨hbins, by decide +kernel, by decide +kernel⟩
  have hdepth : salesReport.toJson.depth ≤ Decoder.maxDepth := by decide +kernel
  have hread : ∀ n ∈ salesReport.toJson.numbers, n.ReadsBack := by decide +kernel
  have hfloats : ∀ x, .float x ∈ salesReport.toJson.numbers → (Number.float x).ReadsBack :=
    fun x => hread (.float x)
  exact ⟨hcanonical, hdepth, hfloats, read_written hcanonical hdepth hfloats⟩

end Document

end Chartboard
