import Chartboard.Proofs.Ledger.Lookup
import Chartboard.Proofs.Wire.Documents
import Chartboard.Wire.Query

/-!
# Requests and responses read back

A request that is sent and a response that comes back are read as what was written. Unset bins, an
unknown total and columns that are not reported are left out and come back as what they were, and a
row keeps the order of its keys.
-/

namespace Chartboard

open Json (Decoder Fills Number Value)

/-! ## Parts of a request -/

/-- An aggregate is read back from its members. -/
theorem Aggregate.reads_toJson (a : Aggregate) : decoder.Reads a.toJson a :=
  Fills.reads_record "AggregationClause" (by decide)
    (.required (Decoder.reads_string a.column)
    (.required (Aggregation.reads_toJson a.function) (.done a)))

/-- A sort clause is read back from its members. -/
theorem SortClause.reads_toJson (c : SortClause) : decoder.Reads c.toJson c :=
  Fills.reads_record "SortClause" (by decide)
    (.required (Decoder.reads_string c.column)
    (.defaulted (SortOrder.reads_toJson c.order) (.done c)))

namespace Filter

/-- A filter is read back with its value. The one way of comparing is written and says nothing. -/
theorem reads_toJson {f : Filter} (hcanonical : f.value.isCanonical) {outside : Nat}
    (hdepth : f.value.depth ≤ Decoder.maxDepth - (outside + 1)) :
    (decoder outside).Reads f.toJson f := by
  have hoperator : (Decoder.alternative (Decoder.variant [(operatorName, ())])).Reads
      (.string operatorName) () := rfl
  exact Fills.reads_record "Filter" (by decide : ["column", "operator", "value"].Nodup)
    (.required (Decoder.reads_string f.column)
    (.defaulted hoperator
    (.required (Decoder.reads_anything hcanonical hdepth) (.done f))))

/-- A filter is nested one level deeper than its value. -/
theorem depth_toJson (f : Filter) : f.toJson.depth = f.value.depth + 1 := by
  simp only [toJson, Value.depth, Value.membersDepth, Nat.zero_max, Nat.max_zero]

/-- The numbers of a filter are those of its value. -/
theorem numbers_toJson (f : Filter) : f.toJson.numbers = f.value.numbers := by
  simp only [toJson, Value.numbers, Value.membersNumbers, List.nil_append, List.append_nil]

end Filter

/-! ## Requests -/

namespace Request

/-- The request has the widths and forms that requests are held in: the limit has 64 bits, the
number of bins has 32, and the values of the filters are canonical. -/
structure IsCanonical (r : Request) : Prop where
  /-- The limit has 64 bits. -/
  limit : r.limit < 0x10000000000000000
  /-- The number of bins has 32 bits. -/
  bins : ∀ n, r.bins = some n → n < Nat.pow 2 32
  /-- The values of the filters are canonical. -/
  filters : ∀ f ∈ r.filters, f.value.isCanonical

variable {r : Request}

/-- The values of the filters stand in three containers. -/
theorem depth_of_toJson {depth : Nat} (h : r.toJson.depth ≤ depth + 3) {f : Filter}
    (hf : f ∈ r.filters) : f.value.depth ≤ depth := by
  have hfilter : f.toJson.depth + 2 ≤ r.toJson.depth :=
    Value.depth_of_item "filters" (List.mem_append_left _ (by simp)) (List.mem_map_of_mem hf)
  rw [f.depth_toJson] at hfilter
  omega

/-- A request is read back from its members, where they are not nested too deep. -/
theorem reads_toJson (hcanonical : r.IsCanonical) (hdepth : r.toJson.depth ≤ Decoder.maxDepth) :
    decoder.Reads r.toJson r := by
  have hgroupBy : (Decoder.list .string).Reads (.array (r.groupBy.map .string)) r.groupBy :=
    Decoder.reads_list fun column _ => Decoder.reads_string column
  have haggregates : (Decoder.list Aggregate.decoder).Reads
      (.array (r.aggregates.map Aggregate.toJson)) r.aggregates :=
    Decoder.reads_list fun a _ => a.reads_toJson
  have hsortBy : (Decoder.list SortClause.decoder).Reads
      (.array (r.sortBy.map SortClause.toJson)) r.sortBy :=
    Decoder.reads_list fun c _ => c.reads_toJson
  have hfilters : (Decoder.list (Filter.decoder 2)).Reads
      (.array (r.filters.map Filter.toJson)) r.filters :=
    Decoder.reads_list fun f hf =>
      Filter.reads_toJson (hcanonical.filters f hf) (depth_of_toJson hdepth hf)
  rw [toJson, Value.written_naturals, ← List.append_nil (Value.optionalMember _ _)]
  exact Fills.reads_record "AggregationQueryRequest" (by decide)
    (.defaulted hgroupBy
    (.defaulted haggregates
    (.defaulted hsortBy
    (.defaulted hfilters
    (.required (Decoder.reads_count hcanonical.limit)
    (.defaulted (Decoder.reads_bool r.isHistogram)
    (.optional (fun n hn => ⟨Decoder.reads_natural (hcanonical.bins n hn), nofun⟩) rfl
      (.done r))))))))

/-- The values of the filters, the limit and the bins are all the numbers of a request. -/
theorem numbers_toJson (r : Request) :
    r.toJson.numbers = Value.itemsNumbers (r.filters.map Filter.toJson)
      ++ (.int r.limit :: (r.bins.map fun n : Nat => Number.int n).toList) := by
  have hgroupBy : Value.itemsNumbers (r.groupBy.map .string) = [] :=
    Value.itemsNumbers_map_eq_nil (fun _ => rfl) r.groupBy
  have haggregates : Value.itemsNumbers (r.aggregates.map Aggregate.toJson) = [] :=
    Value.itemsNumbers_map_eq_nil (fun _ => rfl) r.aggregates
  have hsortBy : Value.itemsNumbers (r.sortBy.map SortClause.toJson) = [] :=
    Value.itemsNumbers_map_eq_nil (fun _ => rfl) r.sortBy
  rw [toJson, Value.written_naturals]
  simp only [Value.numbers, Value.membersNumbers_append, Value.membersNumbers_naturals,
    Value.membersNumbers, hgroupBy, haggregates, hsortBy, List.nil_append, List.append_nil,
    List.append_assoc, List.singleton_append]

/-- The integers of a canonical request stay integers. -/
theorem IsCanonical.inRange (hcanonical : r.IsCanonical) {i : Int}
    (h : .int i ∈ r.toJson.numbers) : Number.inRange i := by
  rw [numbers_toJson, List.mem_append, List.mem_cons] at h
  rcases h with hfilters | hlimit | hbins
  · obtain ⟨v, hv, hi⟩ := Value.mem_itemsNumbers hfilters
    obtain ⟨f, hf, rfl⟩ := List.mem_map.1 hv
    rw [Filter.numbers_toJson] at hi
    exact Value.inRange_of_mem_numbers (hcanonical.filters f hf) hi
  · rw [Number.int.inj hlimit]
    exact Number.inRange_natCast hcanonical.limit
  · exact Number.inRange_of_mem_naturals
      (fun n hn => (hcanonical.bins n hn).trans (by decide)) hbins

end Request

/-! ## Responses -/

/-- A row is read back with its cells, in the order of its keys. -/
theorem Row.reads_toJson {row : Row} {outside : Nat}
    (hcanonical : ∀ e ∈ row.entries, e.2.isCanonical)
    (hdepth : ∀ e ∈ row.entries, e.2.depth ≤ Decoder.maxDepth - (outside + 1)) :
    (decoder outside).Reads row.toJson row := by
  have hentries : (Decoder.entries (.anything (outside + 1))).Reads row.toJson row.entries :=
    Decoder.reads_entries fun e he => Decoder.reads_anything (hcanonical e he) (hdepth e he)
  show Ledger.ofList <$> Decoder.entries _ .text (Json.Tree.ofValue row.toJson) = _
  rw [hentries]
  exact congrArg Except.ok row.ofList_entries

namespace Response

/-- The response has the widths and forms that responses are held in: the total has 64 bits, and
the cells are canonical. -/
structure IsCanonical (r : Response) : Prop where
  /-- The total has 64 bits. -/
  totalRows : ∀ n, r.totalRows = some n → n < 0x10000000000000000
  /-- The cells are canonical. -/
  cells : ∀ row ∈ r.rows, ∀ e ∈ row.entries, e.2.isCanonical

variable {r : Response}

/-- The cells stand in three containers. -/
theorem depth_of_toJson {depth : Nat} (h : r.toJson.depth ≤ depth + 3) {row : Row}
    (hrow : row ∈ r.rows) {e : String × Value} (he : e ∈ row.entries) : e.2.depth ≤ depth := by
  have hrowDepth : row.toJson.depth + 2 ≤ r.toJson.depth :=
    Value.depth_of_item "data"
      (List.mem_append_left _ (List.mem_append_left _ (List.mem_singleton_self _)))
      (List.mem_map_of_mem hrow)
  have hcell := Value.depth_le_membersDepth he
  rw [Row.toJson, Value.depth] at hrowDepth
  omega

/-- Columns that are not reported have no member and are what a response has without one. -/
theorem fills_columns (r : Response) :
    Fills [.defaulted "columns" (.list .string) fun columns r => { r with columns }]
      (if r.columns.isEmpty then [] else [("columns", .array (r.columns.map .string))])
      { r with columns := [] } r := by
  cases hcolumns : r.columns with
  | nil =>
    have hr : { r with columns := [] } = r := by rw [← hcolumns]
    rw [hr]
    exact .lacking rfl (.done r)
  | cons column columns =>
    have hlist : (Decoder.list .string).Reads
        (.array ((column :: columns).map .string)) (column :: columns) :=
      Decoder.reads_list fun name _ => Decoder.reads_string name
    refine .defaulted hlist ?_
    rw [← hcolumns]
    exact .done r

/-- A response is read back from its members, where they are not nested too deep. -/
theorem reads_toJson (hcanonical : r.IsCanonical) (hdepth : r.toJson.depth ≤ Decoder.maxDepth) :
    decoder.Reads r.toJson r := by
  have hrows : (Decoder.list (Row.decoder 2)).Reads (.array (r.rows.map Row.toJson)) r.rows :=
    Decoder.reads_list fun row hrow =>
      Row.reads_toJson (hcanonical.cells row hrow) fun e he => depth_of_toJson hdepth hrow he
  rw [toJson, Value.written_naturals, List.append_assoc]
  exact Fills.reads_record "QueryResponse" (by decide)
    (.required hrows
    (.optional (fun n hn => ⟨Decoder.reads_count (hcanonical.totalRows n hn), nofun⟩) rfl
      (fills_columns r)))

/-- The cells and the total are all the numbers of a response. -/
theorem numbers_toJson (r : Response) :
    r.toJson.numbers = Value.itemsNumbers (r.rows.map Row.toJson)
      ++ (r.totalRows.map fun n : Nat => Number.int n).toList := by
  have hcolumns : Value.membersNumbers
      (if r.columns.isEmpty then [] else [("columns", .array (r.columns.map .string))]) = [] := by
    split
    · rfl
    · exact (List.append_nil _).trans (Value.itemsNumbers_map_eq_nil (fun _ => rfl) r.columns)
  rw [toJson, Value.written_naturals]
  simp only [Value.numbers, Value.membersNumbers_append, Value.membersNumbers_naturals,
    Value.membersNumbers, hcolumns, List.append_nil]

/-- The integers of a canonical response stay integers. -/
theorem IsCanonical.inRange (hcanonical : r.IsCanonical) {i : Int}
    (h : .int i ∈ r.toJson.numbers) : Number.inRange i := by
  rw [numbers_toJson, List.mem_append] at h
  rcases h with hrows | htotal
  · obtain ⟨v, hv, hi⟩ := Value.mem_itemsNumbers hrows
    obtain ⟨row, hrow, rfl⟩ := List.mem_map.1 hv
    exact Value.inRange_of_mem_membersNumbers
      (Value.membersCanonical_iff.2 (hcanonical.cells row hrow)) hi
  · exact Number.inRange_of_mem_naturals hcanonical.totalRows htotal

end Response

/-! ## The trip -/

/-- A request and a response are read from their compact texts as what was written: what is left out
comes back as what it was, every row has its keys in their order, and so the names of the columns
and the number of rows are what they were. The texts nest at most as deep as can be read, and each
double in them is printed so that it is read back. -/
theorem queries_read_back :
    (∀ r : Request, r.IsCanonical → r.toJson.depth ≤ Decoder.maxDepth →
        (∀ x, .float x ∈ r.toJson.numbers → (Number.float x).ReadsBack) →
        Request.ofText r.toJson.compress = .ok r) ∧
      ∀ r : Response, r.IsCanonical → r.toJson.depth ≤ Decoder.maxDepth →
        (∀ x, .float x ∈ r.toJson.numbers → (Number.float x).ReadsBack) →
        Response.ofText r.toJson.compress = .ok r ∧
          (Response.ofText r.toJson.compress).map
              (fun read => (read.rows.map Ledger.keys, read.columnNames, read.rowCount)) =
            .ok (r.rows.map Ledger.keys, r.columnNames, r.rowCount) := by
  constructor
  · intro r hcanonical hdepth hfloats
    exact (Request.reads_toJson hcanonical hdepth).ofText_compress
      (Value.numbers_readBack (fun _ => hcanonical.inRange) hfloats)
  · intro r hcanonical hdepth hfloats
    have hread : Response.ofText r.toJson.compress = .ok r :=
      (Response.reads_toJson hcanonical hdepth).ofText_compress
        (Value.numbers_readBack (fun _ => hcanonical.inRange) hfloats)
    refine ⟨hread, ?_⟩
    rw [hread]
    rfl

/-- The averages of the products of one region, the best first. -/
def Request.bestProducts : Request where
  groupBy := ["product"]
  aggregates := [⟨"rating", .avg⟩]
  sortBy := [⟨"avg_rating", .desc⟩]
  filters := [⟨"region", .string "Süd"⟩, ⟨"since", .number (.float 0.5)⟩]
  limit := 10

/-- Rows whose keys are in no order, with a nested cell, of more rows than are shown. -/
def Response.topRows : Response where
  rows :=
    [Ledger.ofList [("zeta", .int 1), ("alpha", .number (.float 4.5)), ("mid", .null)],
      Ledger.ofList [("zeta", .string "b"), ("alpha", .array [.object [("k", .bool true)]])]]
  totalRows := some 40

/-- A request for the best products and its answer are read back from their texts. -/
theorem queries_read_back_topRows :
    Request.ofText Request.bestProducts.toJson.compress = .ok Request.bestProducts ∧
      Response.ofText Response.topRows.toJson.compress = .ok Response.topRows := by
  have hrequest : ∀ n ∈ Request.bestProducts.toJson.numbers, n.ReadsBack := by decide +kernel
  have hresponse : ∀ n ∈ Response.topRows.toJson.numbers, n.ReadsBack := by decide +kernel
  have hcells : ∀ row ∈ Response.topRows.rows, ∀ e ∈ row.entries, e.2.isCanonical := by
    decide +kernel
  have hfilters : ∀ f ∈ Request.bestProducts.filters, f.value.isCanonical := by decide +kernel
  constructor
  · exact queries_read_back.1 Request.bestProducts ⟨by decide, nofun, hfilters⟩
      (by decide +kernel) fun x => hrequest (.float x)
  · have htotal : ∀ n, Response.topRows.totalRows = some n → n < 0x10000000000000000 := by
      decide +kernel
    exact (queries_read_back.2 Response.topRows ⟨htotal, hcells⟩ (by decide +kernel)
      fun x => hresponse (.float x)).1

end Chartboard
