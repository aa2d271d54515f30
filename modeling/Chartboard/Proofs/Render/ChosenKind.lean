import Chartboard.Proofs.Render.Gridding
import Chartboard.Proofs.Render.Readable
import Chartboard.Proofs.Render.Reading

/-!
# The kind that is drawn

A response is drawn as a chart of a given kind, and the specification names a kind of its own. The
two are the same wherever a view draws its own specification. Where they differ, the kind of the
specification still decides whether it has a series column or a second axis.
-/

namespace Chartboard

namespace Spec

/-- The specification as one of another kind, without a series column and without a second value
column if its own kind does not take them. -/
def drawnAs (s : Spec) (kind : ChartKind) : Spec :=
  { s with
    kind
    subGroup := s.effectiveSubGroup
    secondaryValueColumn := if s.kind = .dualAxis then s.secondaryValueColumn else none }

/-- A kind takes a field that is set and that the kind of the specification does not take: the
series column of bars, lines and areas, or the second value column of a chart with two axes. -/
def Withholds (s : Spec) (kind : ChartKind) : Prop :=
  s.valueColumn.isSome ∧
    ((kind.supportsSubGroup ∧ ¬s.kind.supportsSubGroup ∧ s.groupBy.isSome ∧ s.subGroup.isSome) ∨
      (kind = .dualAxis ∧ s.kind ≠ .dualAxis ∧ s.secondaryValueColumn.isSome))

end Spec

namespace RenderModel

variable {kind : ChartKind} {s : Spec}

/-- A chart of the given kind does not read the fields that the specification's own kind does not
take. -/
theorem readsAlike_drawnAs (kind : ChartKind) (s : Spec) : s.ReadsAlike kind (s.drawnAs kind) where
  valueColumn _ := rfl
  valueKey _ := rfl
  groupBy _ _ := rfl
  series hseries _ _ := by
    show s.effectiveSubGroup = if kind.supportsSubGroup then s.effectiveSubGroup else none
    rw [if_pos hseries]
  stacked _ := rfl
  secondaryKey hdual _ := by
    rw [Spec.secondaryKey_of_dualAxis (s := s.drawnAs kind) hdual, Spec.secondaryKey]
    show _ = Option.map _ (if s.kind = .dualAxis then s.secondaryValueColumn else none)
    split
    · rfl
    · rfl

/-! ## Fields that are withheld -/

/-- Where no field is withheld, it makes no difference which kind the specification is of. -/
theorem readsAlike_of_not_withholds (h : ¬s.Withholds kind) :
    s.ReadsAlike kind { s with kind } := by
  have hcolumn : s.valueKey.isSome → s.valueColumn.isSome := by
    rw [Spec.valueKey, Option.isSome_map]
    exact id
  refine ⟨fun _ => rfl, fun _ => rfl, fun _ _ => rfl, fun hseries hkey hgroup => ?_, fun _ => rfl,
    fun hdual hkey => ?_⟩
  · show _ = if kind.supportsSubGroup then s.subGroup else none
    rw [if_pos hseries, Spec.effectiveSubGroup]
    split
    · rfl
    · rename_i hother
      cases hsub : s.subGroup with
      | none => rfl
      | some subGroup =>
        refine absurd ⟨hcolumn hkey, .inl ⟨hseries, hother, hgroup, ?_⟩⟩ h
        rw [hsub]
        rfl
  · rw [Spec.secondaryKey_of_dualAxis (s := { s with kind }) hdual, Spec.secondaryKey]
    split
    · rfl
    · rename_i hother
      cases hsecond : s.secondaryValueColumn with
      | none => rfl
      | some second =>
        refine absurd ⟨hcolumn hkey, .inr ⟨hdual, hother, ?_⟩⟩ h
        rw [hsecond]
        rfl

/-- Some texts under one name each, all of them the same. -/
def uniformRow (names : List String) (text : String) : Row :=
  Ledger.ofList (names.map fun name => (name, .string text))

/-- A uniform row has its text under each of its names. -/
theorem get?_uniformRow {names : List String} {name : String} (h : name ∈ names) (text : String) :
    (uniformRow names text).get? name = some (.string text) := by
  refine Ledger.get?_ofList_of_agree ?_ fun w hw _ => ?_
  · rw [List.map_map]
    exact List.mem_map_of_mem h
  · obtain ⟨other, -, rfl⟩ := List.mem_map.1 hw
    rfl

/-- A uniform row has a cell under each of its names. -/
theorem mem_keys_uniformRow {names : List String} {name : String} (h : name ∈ names)
    (text : String) : name ∈ (uniformRow names text).keys :=
  Ledger.mem_keys_iff.2 ⟨_, get?_uniformRow h text⟩

/-- One row of equal texts is one series: that of the text if there is a series column, and else
that of the value. -/
theorem series_uniformRow {groupBy key : String} {names : List String}
    (hkind : kind.supportsSubGroup) (hkey : s.valueKey = some key)
    (hgroup : s.groupBy = some groupBy) (hkeyed : key ∈ names) (hgrouped : groupBy ∈ names)
    (hseries : ∀ name, s.effectiveSubGroup = some name → name ∈ names) (text : String)
    (displayCap : Nat) :
    ∃ m, ofResponse displayCap kind s { rows := [uniformRow names text] } = .ok (.categorical m) ∧
      m.series.map (·.key) = [if s.effectiveSubGroup.isSome then text else key] := by
  obtain ⟨grid, hgrid⟩ := @gridRows_total [uniformRow names text] kind groupBy key s
    (fun row hrow => List.mem_singleton.1 hrow ▸ mem_keys_uniformRow hkeyed text)
    (fun row hrow => List.mem_singleton.1 hrow ▸ mem_keys_uniformRow hgrouped text)
  refine ⟨gridModel kind s grid, (ofResponse_categorical hkind).2
    ⟨List.cons_ne_nil _ _, key, groupBy, grid, hkey, hgroup, hgrid, rfl⟩, ?_⟩
  rw [(isGridOf_gridModel hgrid).series, List.flatMap_singleton, Spec.gridShape]
  cases hsub : s.effectiveSubGroup with
  | none => rfl
  | some subGroup =>
    have hcell := get?_uniformRow (hseries subGroup hsub) text
    have hlong : ([uniformRow names text].all fun row => row.contains subGroup) = true := by
      rw [List.all_cons, List.all_nil, Bool.and_true]
      exact Ledger.contains_iff.2 (mem_keys_uniformRow (hseries subGroup hsub) text)
    simp only [hlong, if_true, GridShape.series, Row.label?, hcell]
    rfl

/-- A series column that is withheld leaves bars, lines or areas with the series of the value. -/
theorem not_alike_of_series (hkind : kind.supportsSubGroup) (hother : ¬s.kind.supportsSubGroup)
    {value groupBy subGroup : String} (hvalue : s.valueColumn = some value)
    (hgroup : s.groupBy = some groupBy) (hsub : s.subGroup = some subGroup) (displayCap : Nat) :
    ¬∀ r, ofResponse displayCap kind s r = ofResponse displayCap kind { s with kind } r := by
  intro halike
  have hkey := Spec.valueKey_of_valueColumn hvalue
  generalize Aggregate.key ⟨value, s.aggregation⟩ = key at hkey
  have hnone : s.effectiveSubGroup = none := by
    rw [Spec.effectiveSubGroup, if_neg hother]
  have hsome : Spec.effectiveSubGroup { s with kind } = some subGroup := by
    rw [Spec.effectiveSubGroup, if_pos hkind, hsub]
  -- The text is longer than the key, so it is another one.
  obtain ⟨m, hm, hplain⟩ := @series_uniformRow kind s groupBy key [key, groupBy, subGroup] hkind
    hkey hgroup (by simp) (by simp) (by simp [hnone]) (key ++ "x") displayCap
  obtain ⟨n, hn, hlong⟩ := @series_uniformRow kind { s with kind } groupBy key
    [key, groupBy, subGroup] hkind hkey hgroup (by simp) (by simp) (by simp [hsome]) (key ++ "x")
    displayCap
  rw [halike, hn] at hm
  cases hm
  rw [hplain, hnone, hsome] at hlong
  have hlength := congrArg String.length (List.cons.inj hlong).1
  simp only [Option.isSome_none, Option.isSome_some, Bool.false_eq_true, if_false, if_true,
    String.length_append] at hlength
  have hone : "x".length = 1 := rfl
  omega

/-- A second value column that is withheld is missed, though it is set. -/
theorem ofResponse_of_withheld_second {value : String} (hother : s.kind ≠ .dualAxis)
    (hvalue : s.valueColumn = some value) (displayCap : Nat) {r : Response} (hne : r.rows ≠ []) :
    ofResponse displayCap .dualAxis s r =
      .error (.malformedResponse .dualAxis SpecField.secondaryValueColumn.name) := by
  rw [ofResponse, Response.isEmpty_eq_false hne, if_neg Bool.false_ne_true]
  show dualAxisOf s r.rows = _
  rw [dualAxisOf, Spec.valueKey_of_valueColumn hvalue, Spec.secondaryKey, if_neg hother]
  rfl

/-- A chart with two axes and both of its values does not always miss the second one: it is drawn
or misses its groups. -/
theorem exists_second_not_missed (hdual : s.kind = .dualAxis) {key key' : String}
    (hkey : s.valueKey = some key) (hkey' : s.secondaryKey = some key') (displayCap : Nat) :
    ∃ r : Response, r.rows ≠ [] ∧ ofResponse displayCap .dualAxis s r ≠
      .error (.malformedResponse .dualAxis SpecField.secondaryValueColumn.name) := by
  let r : Response := { rows := [uniformRow [key, key', s.groupBy.getD ""] ""] }
  have hne : r.rows ≠ [] := List.cons_ne_nil _ _
  refine ⟨r, hne, ?_⟩
  cases hgroup : s.groupBy with
  | none =>
    have hrefused : ofResponse displayCap .dualAxis s r =
        .error (.malformedResponse .dualAxis SpecField.groupBy.name) := by
      rw [ofResponse, Response.isEmpty_eq_false hne, if_neg Bool.false_ne_true]
      show dualAxisOf s r.rows = _
      rw [dualAxisOf, hkey, hkey', hgroup]
      rfl
    rw [hrefused]
    intro heq
    have hfields := (AdaptError.malformedResponse.inj (Except.error.inj heq)).2
    exact absurd hfields (by decide)
  | some groupBy =>
    have hcells : ∀ name ∈ [key, key', groupBy], ∀ row ∈ r.rows, name ∈ row.keys := by
      intro name hname row hrow
      rw [List.mem_singleton.1 hrow, hgroup]
      exact mem_keys_uniformRow hname ""
    have hreadable : Readable s r.rows :=
      ⟨⟨key, hkey, hcells key (by simp)⟩, fun _ => ⟨groupBy, hgroup, hcells groupBy (by simp)⟩,
        fun _ => ⟨key', hkey', hcells key' (by simp)⟩⟩
    have hhistogram : s.kind ≠ .histogram := by rw [hdual]; decide
    obtain ⟨m, hm, -⟩ := @ofResponse_total displayCap s r hhistogram hne hreadable
    rw [hdual] at hm
    rw [hm]
    exact nofun

/-- A second column that the kind of the specification does not take is missing from a chart with
two axes. -/
theorem not_alike_of_second (hother : s.kind ≠ .dualAxis) {value second : String}
    (hvalue : s.valueColumn = some value) (hsecond : s.secondaryValueColumn = some second)
    (displayCap : Nat) :
    ¬∀ r, ofResponse displayCap .dualAxis s r =
      ofResponse displayCap .dualAxis { s with kind := .dualAxis } r := by
  intro halike
  have hkey' : Spec.secondaryKey { s with kind := .dualAxis } =
      some (Aggregate.key ⟨second, s.aggregation⟩) := by
    rw [Spec.secondaryKey_of_dualAxis rfl, hsecond]
    rfl
  obtain ⟨r, hne, hfound⟩ := @exists_second_not_missed { s with kind := .dualAxis } rfl _ _
    (Spec.valueKey_of_valueColumn hvalue) hkey' displayCap
  rw [← halike r] at hfound
  exact hfound (ofResponse_of_withheld_second hother hvalue displayCap hne)

/-- A response is drawn as a given kind of chart from the fields that the specification's own kind
takes. It is drawn as if the specification were of the given kind, for all responses, exactly if no
field is withheld. -/
theorem drawn_by_kind_iff (displayCap : Nat) (kind : ChartKind) (s : Spec) :
    (∀ r, ofResponse displayCap kind s r = ofResponse displayCap kind (s.drawnAs kind) r) ∧
    ((∀ r, ofResponse displayCap kind s r = ofResponse displayCap kind { s with kind } r) ↔
      ¬s.Withholds kind) := by
  refine ⟨fun r => ofResponse_alike (readsAlike_drawnAs kind s) displayCap r,
    fun halike hwithholds => ?_,
    fun h r => ofResponse_alike (readsAlike_of_not_withholds h) displayCap r⟩
  obtain ⟨hvalue, hfield⟩ := hwithholds
  obtain ⟨value, hvalue⟩ := Option.isSome_iff_exists.1 hvalue
  rcases hfield with ⟨hkind, hother, hgroup, hsub⟩ | ⟨rfl, hother, hsecond⟩
  · obtain ⟨groupBy, hgroup⟩ := Option.isSome_iff_exists.1 hgroup
    obtain ⟨subGroup, hsub⟩ := Option.isSome_iff_exists.1 hsub
    exact not_alike_of_series hkind hother hvalue hgroup hsub displayCap halike
  · obtain ⟨second, hsecond⟩ := Option.isSome_iff_exists.1 hsecond
    exact not_alike_of_second hother hvalue hsecond displayCap halike

/-- The sales of each region and channel, as a pie that keeps its series column. -/
def channelPie : Spec where
  kind := .pie
  groupBy := some "region"
  subGroup := some "channel"
  valueColumn := some "sales"

/-- The sales of one region in one channel. -/
def channelResponse : Response where
  rows := [.ofList [("region", .string "East"), ("channel", .string "Online"),
    ("sales_sum", .int 70)]]

/-- The sales and margins of a region, as bars that keep the column of a second axis. -/
def marginBars : Spec where
  groupBy := some "region"
  valueColumn := some "sales"
  secondaryValueColumn := some "margin"

/-- The sales and margins of one region. -/
def marginResponse : Response where
  rows := [.ofList [("region", .string "East"), ("sales_sum", .int 70), ("margin_sum", .int 9)]]

/-- The bars of one region, with a series for each key. -/
def regionBars (series : List Series) : CategoricalModel where
  kind := .bar
  categories := ["East"]
  series
  stacked := false

/-- Bars that are drawn for a pie lack its series, and two axes that are drawn for bars are refused
for a column that is set. -/
theorem channelPie_drawn_without_series :
    ofResponse 100 .bar channelPie channelResponse = .ok (.categorical (regionBars
      [{ key := "sales_sum", values := [some (Float.ofInt 70)], color := Rgb.ofIndex 0 }])) ∧
    ofResponse 100 .bar { channelPie with kind := .bar } channelResponse =
      .ok (.categorical (regionBars
        [{ key := "Online", values := [some (Float.ofInt 70)], color := Rgb.ofIndex 0 }])) ∧
    ofResponse 100 .bar channelPie channelResponse ≠
      ofResponse 100 .bar { channelPie with kind := .bar } channelResponse ∧
    ofResponse 100 .dualAxis marginBars marginResponse =
      .error (.malformedResponse .dualAxis "secondary_value_column") ∧
    ∃ m, ofResponse 100 .dualAxis { marginBars with kind := .dualAxis } marginResponse = .ok m := by
  have hplain : ofResponse 100 .bar channelPie channelResponse = .ok (.categorical (regionBars
      [{ key := "sales_sum", values := [some (Float.ofInt 70)], color := Rgb.ofIndex 0 }])) := rfl
  have hlong : ofResponse 100 .bar { channelPie with kind := .bar } channelResponse =
      .ok (.categorical (regionBars
        [{ key := "Online", values := [some (Float.ofInt 70)], color := Rgb.ofIndex 0 }])) := rfl
  refine ⟨hplain, hlong, fun heq => ?_, rfl, _, rfl⟩
  rw [hplain, hlong] at heq
  have hkeys := congrArg (fun m => m.series.map (·.key))
    (RenderModel.categorical.inj (Except.ok.inj heq))
  exact absurd hkeys (by decide)

end RenderModel

end Chartboard
