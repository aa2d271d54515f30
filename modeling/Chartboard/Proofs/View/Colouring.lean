import Chartboard.Proofs.Render.Colouring
import Chartboard.Proofs.View.Display

/-!
# Coloured charts

A chart colours what it draws by the specification that it has when the answer is taken. So whatever
is shown with classes was drawn for bars without series, and with colouring asked for.
-/

namespace Chartboard

/-- The specification asks for bars without series that are coloured by their side of the mean. -/
structure Spec.AsksForColours (s : Spec) : Prop where
  /-- It asks for bars. -/
  kind : s.kind = .bar
  /-- It asks for colours. -/
  conditionalColoring : s.conditionalColoring = true
  /-- It has no series column that counts. -/
  effectiveSubGroup : s.effectiveSubGroup = none

/-- The points of a chart are coloured exactly where its specification asks for that. -/
theorem Spec.colorsByMean_iff {s : Spec} : s.colorsByMean = true ↔ s.AsksForColours := by
  simp only [colorsByMean, Bool.and_eq_true, beq_iff_eq, Option.isNone_iff_eq_none]
  exact ⟨fun ⟨⟨hasked, hkind⟩, hnone⟩ => ⟨hkind, hasked, hnone⟩,
    fun h => ⟨⟨h.conditionalColoring, h.kind⟩, h.effectiveSubGroup⟩⟩

/-- A chart draws classes only if its specification asks for them. -/
theorem ChartView.asksForColours_of_draw {v : ChartView} {response : Response}
    (h : (v.draw response).IsColored) : v.spec.AsksForColours := by
  by_contra hoff
  rw [← Spec.colorsByMean_iff] at hoff
  unfold draw at h
  split at h
  · rename_i model hmodel
    have hsame : model.colorize v.spec.colorsByMean = model :=
      RenderModel.colorize_eq_self fun hcolors => hoff hcolors.1
    rw [hsame] at h
    exact RenderModel.plain_ofResponse _ _ _ _ model hmodel h
  · exact RenderModel.placeholder_not_isColored _ h

/-- Colouring changes nothing but the classes of points, and nothing at all the second time. It
leaves everything as it is unless it is asked for and the model shows bars of a single series. Those
get classes that go with their values, or none if there are only gaps. In every history of a new
view a drawing has classes only if the specification asked for them when it was drawn, which was
when the answer to the last query was taken. Running a chart leads nowhere else. -/
theorem colours_annotate (enabled : Bool) (m : RenderModel) (id : Uuid) (catalog : Catalog)
    (options : List ViewOption) (calls : List ViewCall) :
    (m.colorize enabled).uncolored = m.uncolored ∧
    (m.colorize enabled).colorize enabled = m.colorize enabled ∧
    (enabled = false → m.colorize enabled = m) ∧
    ((∀ bars s, ¬m.IsBarsOf bars s) → m.colorize enabled = m) ∧
    (∀ bars s, enabled = true → m.IsBarsOf bars s → ∃ pointClasses,
      m.colorize enabled = .categorical { bars with series := [{ s with pointClasses }] } ∧
      (pointClasses = none ↔ ∀ v ∈ s.values, v = none) ∧
      ∀ classes, pointClasses = some classes → s.Fits classes) ∧
    let v := ChartView.build id catalog options
    let now := v.after calls
    (∀ model, now.render = some model → model.IsColored →
      ∃ earlier step later response, v.steps calls = earlier ++ step :: later ∧
        step.call = .complete now.generation (.ok response) ∧
        step.turn.answer = .ok (.flag true) ∧ step.before.draw response = model ∧
        issued later = [] ∧ taken later = [] ∧ step.before.spec.AsksForColours) ∧
    ∀ {ε : Type} (execute : Executor ε) (env : ε),
      ∃ more, (now.run execute env).1.state = now.after more := by
  refine ⟨m.uncolored_colorize enabled, m.colorize_colorize enabled, ?_, ?_, ?_, ?_⟩
  · rintro rfl
    exact RenderModel.colorize_eq_self fun h => Bool.false_ne_true h.1
  · intro hother
    exact RenderModel.colorize_eq_self fun ⟨_, bars, s, hbars⟩ => hother bars s hbars
  · rintro bars s rfl hbars
    have hclasses := s.classified_pointClasses
    exact ⟨s.classified.pointClasses, RenderModel.colorize_of_bars hbars, hclasses.1, hclasses.2⟩
  · intro v now
    have hdraws : DrawsLast (v.steps calls) now :=
      drawsLast_history (ChartView.build_isNew id catalog options)
        (congrArg Display.render (ChartView.display_build id catalog options)) calls
    refine ⟨fun model hmodel hcolored => ?_, fun execute env => now.run_eq_after execute env⟩
    obtain ⟨-, earlier, step, later, response, hsteps, hcall, hanswer, hdrawn, hissued, htaken⟩ :=
      hdraws model hmodel
    have hasks : step.before.spec.AsksForColours :=
      ChartView.asksForColours_of_draw (by rw [hdrawn]; exact hcolored)
    exact ⟨earlier, step, later, response, hsteps, hcall, hanswer, hdrawn, hissued, htaken, hasks⟩

end Chartboard
