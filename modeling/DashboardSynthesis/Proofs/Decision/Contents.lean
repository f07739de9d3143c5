import DashboardSynthesis.Proofs.Dashboard.Surrogates
import DashboardSynthesis.Proofs.Decision.Defects

/-!
# Panels of decisions without surrogates

What the panel of a decision shows is put together of the names that are given for it and of what the registry
says of its type.  If none of these holds a surrogate, the panel holds none (`isScalar_of_treatAll`).
-/

namespace DashboardSynthesis

open Text

/-! ## Queries -/

namespace PromQL

variable {metric query : Text} {matchers : List Matcher} {f : QueryFunction}

/-- Neither the label nor the text it is compared with holds a surrogate. -/
def Matcher.IsScalar (m : Matcher) : Prop := m.label.IsScalar ∧ m.value.IsScalar

/-- Neither the window nor the label for grouping holds a surrogate. -/
def QueryFunction.IsScalar (f : QueryFunction) : Prop :=
  f.window.IsScalar ∧ ∀ label ∈ f.groupBy, label.IsScalar

instance : DecidablePred QueryFunction.IsScalar := fun _ => inferInstanceAs (Decidable (_ ∧ _))

theorem isScalar_escape (c : CodePoint) : (escape c).IsScalar ↔ c.isScalar = true := by
  cases c with
  | surrogate n => simp [escape]
  | scalar c =>
    refine iff_of_true ?_ rfl
    rw [escape.eq_def]
    split <;> simp

theorem isScalar_quoted_iff {t : Text} : (quoted t).IsScalar ↔ t.IsScalar := by
  simp [quoted, isScalar_flatMap isScalar_escape]

theorem isScalar_renderSelector (hmetric : metric.IsScalar) (hmatchers : ∀ m ∈ matchers, m.IsScalar) :
    (renderSelector metric matchers).IsScalar := by
  rw [renderSelector.eq_def]
  split
  · exact hmetric
  · have hrendered : ∀ t ∈ matchers.map Matcher.render, t.IsScalar := by
      intro t ht
      obtain ⟨m, hm, rfl⟩ := List.mem_map.1 ht
      simp [Matcher.render, (hmatchers m hm).1, (hmatchers m hm).2]
    simp [hmetric, isScalar_joinWith (isScalar_ofString _) hrendered]

theorem isScalar_renderRate {selector window : Text} (hselector : selector.IsScalar)
    (hwindow : window.IsScalar) : (renderRate selector window).IsScalar := by
  simp [renderRate, hselector, hwindow]

theorem isScalar_of_render (hf : f.IsScalar) (hmetric : metric.IsScalar)
    (hmatchers : ∀ m ∈ matchers, m.IsScalar) (h : f.render metric matchers = .ok query) :
    query.IsScalar := by
  have hrate (suffix : String) :
      (renderRate (renderSelector (metric ++ (suffix : Text)) matchers) f.window).IsScalar :=
    isScalar_renderRate (isScalar_renderSelector (by simp [hmetric]) hmatchers) hf.1
  rw [QueryFunction.render.eq_def] at h
  split at h
  · rw [← Except.ok.inj h]
    exact isScalar_renderSelector hmetric hmatchers
  · dsimp only at h
    split at h
    · rw [← Except.ok.inj h]
      simp [hrate]
    · rw [← Except.ok.inj h]
      simp [hrate]
    · next label _ hlabel =>
      rw [← Except.ok.inj h]
      simp [hrate, hf.2 label hlabel]
  · split at h
    · exact absurd h (by simp)
    · next q _ =>
      have hq : (Shortest.text messageFloatNames q).IsScalar :=
        Shortest.isScalar_text (isScalar_ofString _) (isScalar_ofString _) (isScalar_ofString _) q
      rw [← Except.ok.inj h]
      simp [hrate, hq]
  · exact absurd h (by simp)

end PromQL

/-! ## Contents -/

variable {registry : Registry} {metric endpoint type : Text} {build : Build} {d : Decision}

/-- Nothing that the registry says of the panels of a type holds a surrogate. -/
def Registry.IsScalar (registry : Registry) : Prop :=
  ∀ p ∈ registry, (∀ f ∈ p.2.function, f.IsScalar) ∧ ∀ label ∈ p.2.yAxis, label.IsScalar

instance : DecidablePred Registry.IsScalar := fun registry =>
  inferInstanceAs (Decidable (∀ p ∈ registry, _ ∧ _))

theorem Registry.isScalar_standard : Registry.standard.IsScalar := by decide

theorem Registry.isScalar_of_functionFor {f : PromQL.QueryFunction} (hregistry : registry.IsScalar)
    (h : registry.functionFor type = .ok f) : f.IsScalar := by
  cases hentry : registry.find? type with
  | none =>
    rw [functionFor, hentry] at h
    exact absurd h (by simp)
  | some entry =>
    have hfunction := (functionFor_eq_ok_iff hentry).1 h
    exact (hregistry _ (mem_of_find?_eq_some hentry)).1 f hfunction

theorem Registry.isScalar_of_yAxisFor {label : Text} (hregistry : registry.IsScalar)
    (h : registry.yAxisFor type = .ok label) : label.IsScalar := by
  cases hentry : registry.find? type with
  | none =>
    rw [yAxisFor, hentry] at h
    exact absurd h (by simp)
  | some entry =>
    have hlabel := (yAxisFor_eq_ok_iff hentry).1 h
    exact (hregistry _ (mem_of_find?_eq_some hentry)).2 label hlabel

theorem IsDecisionContent.isScalar {content : PanelContent} (hregistry : registry.IsScalar)
    (hmetric : metric.IsScalar) (hendpoint : endpoint.IsScalar) (hartifact : build.artifactId.IsScalar)
    (hversion : build.version.IsScalar) (hname : d.name.IsScalar)
    (h : IsDecisionContent registry metric endpoint build d content) : content.IsScalar := by
  obtain ⟨_, f, -, hfunction, hquery⟩ := h.query
  obtain ⟨_, label, -, hlabel, haxis⟩ := h.axisLabel
  refine ⟨?_, ?_, ?_⟩
  · rw [h.title]
    simp [hname]
  · refine PromQL.isScalar_of_render (Registry.isScalar_of_functionFor hregistry hfunction) hmetric ?_ hquery
    simp [PromQL.Matcher.IsScalar, PromQL.isScalar_quoted_iff, hendpoint, hname, hartifact, hversion]
  · rw [haxis]
    rintro label' hlabel'
    rw [← Option.some_inj.1 hlabel']
    exact Registry.isScalar_of_yAxisFor hregistry hlabel

end DashboardSynthesis
