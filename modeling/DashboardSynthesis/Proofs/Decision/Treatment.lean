import DashboardSynthesis.Decision.Treatment
import DashboardSynthesis.Proofs.Outcome
import DashboardSynthesis.Proofs.PromQL.Selector
import Mathlib.Data.List.Forall2

/-!
# What becomes of decisions

`treatAll` stops at the first defect of the registry.  Where there is none, it has treated every
decision, in order (`forall₂_of_treatAll`), and a decision gets a panel if its type is supported and a
warning otherwise, never both and never neither.  So the panels stand for the supported decisions, one
each and in their order (`forall₂_panels`), and the warnings for the others (`forall₂_warnings`).

In the standard registry there is no defect to stop at (`treatAll_standard`).
-/

namespace DashboardSynthesis

/-- Does the decision declare a type, and one that gets panels? -/
def Decision.isSupported (registry : Registry) (d : Decision) : Bool :=
  d.localType?.any registry.supports

/-- The warning about a decision that is skipped: it says that no type is declared, or names the type
that gets no panels. -/
def IsSkipWarning (d : Decision) (message : Text) : Prop :=
  match d.localType? with
  | none => (Treatment.typeMissing d).warning? = some message
  | some type => (Treatment.typeUnsupported d type).warning? = some message

/-- The content of the panel of a decision: the query of the type's function over the metric, selected
by endpoint, decision, artifact and version, under the type's axis label. -/
structure IsDecisionContent (registry : Registry) (metric endpoint : Text) (build : Build)
    (d : Decision) (content : PanelContent) : Prop where
  kind : content.kind = .timeseries
  title : content.title = ("Decision " : Text) ++ d.name
  query : ∃ type function, d.localType? = some type ∧ registry.functionFor type = .ok function ∧
    function.render metric [⟨"endpoint", PromQL.quoted endpoint⟩, ⟨"decision", PromQL.quoted d.name⟩,
      ⟨"artifactId", PromQL.quoted build.artifactId⟩, ⟨"version", PromQL.quoted build.version⟩] =
      .ok content.query
  axisLabel : ∃ type label, d.localType? = some type ∧ registry.yAxisFor type = .ok label ∧
    content.axisLabel = some label

variable {registry : Registry} {metric endpoint : Text} {build : Build}

/-! ## One decision -/

theorem isDecisionContent_of_decisionPanel {d : Decision} {type : Text} {content : PanelContent}
    (htype : d.localType? = some type)
    (h : decisionPanel registry metric endpoint build d type = .ok content) :
    IsDecisionContent registry metric endpoint build d content := by
  obtain ⟨function, hfunction, h⟩ := exists_of_bind_eq_ok h
  obtain ⟨query, hquery, h⟩ := exists_of_bind_eq_ok h
  obtain ⟨label, hlabel, h⟩ := exists_of_bind_eq_ok h
  rw [← Except.ok.inj h]
  exact ⟨rfl, rfl, ⟨type, function, htype, hfunction, eq_ok_of_mapError_eq_ok hquery⟩,
    ⟨type, label, htype, hlabel, rfl⟩⟩

/-- A supported decision gets a panel, and no warning. -/
theorem treat_of_isSupported {d : Decision} {t : Treatment} (hd : d.isSupported registry = true)
    (h : treat registry metric endpoint build d = .ok t) :
    t.warning? = none ∧
      ∃ content, t.content? = some content ∧
        IsDecisionContent registry metric endpoint build d content := by
  obtain ⟨type, htype, hsupports⟩ := (Option.any_eq_true _ _).1 hd
  rw [treat, htype] at h
  dsimp only at h
  rw [if_pos hsupports] at h
  obtain ⟨content, hcontent, rfl⟩ := exists_of_map_eq_ok h
  exact ⟨rfl, content, rfl, isDecisionContent_of_decisionPanel htype hcontent⟩

/-- A decision that is not supported gets a warning, and no panel. -/
theorem treat_of_not_isSupported {d : Decision} {t : Treatment}
    (hd : ¬ d.isSupported registry = true) (h : treat registry metric endpoint build d = .ok t) :
    t.content? = none ∧ ∃ message, t.warning? = some message ∧ IsSkipWarning d message := by
  unfold IsSkipWarning
  rw [treat] at h
  rw [Decision.isSupported] at hd
  cases htype : d.localType? with
  | none =>
    rw [htype] at h
    rw [← Except.ok.inj h]
    exact ⟨rfl, _, rfl, rfl⟩
  | some type =>
    rw [htype] at h hd
    dsimp only at h
    rw [if_neg (by simpa using hd)] at h
    rw [← Except.ok.inj h]
    exact ⟨rfl, _, rfl, rfl⟩

/-! ## All decisions -/

theorem forall₂_of_treatAll {ds : List Decision} {ts : List Treatment}
    (h : treatAll registry metric endpoint build ds = (ts, none)) :
    List.Forall₂ (fun d t => treat registry metric endpoint build d = .ok t) ds ts := by
  induction ds generalizing ts with
  | nil =>
    rw [treatAll, Prod.mk.injEq] at h
    exact h.1 ▸ .nil
  | cons d ds ih =>
    rw [treatAll] at h
    split at h
    · exact absurd (Prod.mk.inj h).2 (by simp)
    · next t ht =>
      obtain ⟨rfl, hrest⟩ := Prod.mk.inj h
      exact .cons ht (ih (Prod.ext rfl hrest))

/-- Selecting on the left, and mapping on the right what was selected. -/
theorem forall₂_filter_filterMap {α β γ : Type} {R : α → β → Prop} {Q : α → γ → Prop} {p : α → Bool}
    {f : β → Option γ} (hpos : ∀ a b, R a b → p a = true → ∃ c, f b = some c ∧ Q a c)
    (hneg : ∀ a b, R a b → ¬ p a = true → f b = none) {as : List α} {bs : List β}
    (h : List.Forall₂ R as bs) : List.Forall₂ Q (as.filter p) (bs.filterMap f) := by
  induction h with
  | nil => exact .nil
  | @cons a b as bs hab _ ih =>
    by_cases hp : p a = true
    · obtain ⟨c, hc, hq⟩ := hpos a b hab hp
      rw [List.filter_cons_of_pos hp, List.filterMap_cons_some hc]
      exact .cons hq ih
    · rw [List.filter_cons_of_neg hp, List.filterMap_cons_none (hneg a b hab hp)]
      exact ih

/-- Two pairings, one behind the other. -/
theorem forall₂_comp {α β γ : Type} {R : α → β → Prop} {S : β → γ → Prop} {T : α → γ → Prop}
    (hcomp : ∀ a b c, R a b → S b c → T a c) {as : List α} {bs : List β} {cs : List γ}
    (h : List.Forall₂ R as bs) (h' : List.Forall₂ S bs cs) : List.Forall₂ T as cs := by
  induction h generalizing cs with
  | nil =>
    cases h'
    exact .nil
  | cons hab _ ih =>
    cases h' with
    | cons hbc h' => exact .cons (hcomp _ _ _ hab hbc) (ih h')

theorem exists_of_mem_of_forall₂ {α β : Type} {R : α → β → Prop} {as : List α} {bs : List β}
    (h : List.Forall₂ R as bs) : ∀ b ∈ bs, ∃ a ∈ as, R a b := by
  induction h with
  | nil => exact fun b hb => absurd hb List.not_mem_nil
  | @cons a b as bs hab _ ih =>
    rintro c (_ | ⟨_, hc⟩)
    · exact ⟨a, List.mem_cons_self, hab⟩
    · obtain ⟨a', ha', hr⟩ := ih c hc
      exact ⟨a', List.mem_cons_of_mem _ ha', hr⟩

theorem forall₂_panels {ds : List Decision} {ts : List Treatment}
    (h : treatAll registry metric endpoint build ds = (ts, none)) :
    List.Forall₂ (IsDecisionContent registry metric endpoint build)
      (ds.filter (Decision.isSupported registry)) (ts.filterMap Treatment.content?) := by
  refine forall₂_filter_filterMap ?_ ?_ (forall₂_of_treatAll h)
  · exact fun d t ht hd => (treat_of_isSupported hd ht).2
  · exact fun d t ht hd => (treat_of_not_isSupported hd ht).1

theorem forall₂_warnings {ds : List Decision} {ts : List Treatment}
    (h : treatAll registry metric endpoint build ds = (ts, none)) :
    List.Forall₂ IsSkipWarning (ds.filter fun d => !d.isSupported registry)
      (ts.filterMap Treatment.warning?) := by
  refine forall₂_filter_filterMap ?_ ?_ (forall₂_of_treatAll h)
  · intro d t ht hd
    exact (treat_of_not_isSupported (by simpa using hd) ht).2
  · intro d t ht hd
    exact (treat_of_isSupported (by simpa using hd) ht).1

/-! ## The standard registry -/

theorem Registry.mem_of_find?_eq_some {r : Registry} {type : Text} {entry : TypeEntry}
    (h : r.find? type = some entry) : (type, entry) ∈ r := by
  induction r with
  | nil => exact absurd h (by simp [Registry.find?])
  | cons e r ih =>
    rw [Registry.find?] at h
    split at h
    · next htype =>
      rw [← htype, ← Option.some_inj.1 h]
      exact List.mem_cons_self ..
    · exact List.mem_cons_of_mem _ (ih h)

/-- The entries for supported types lack nothing. -/
theorem exists_of_supports_standard {type : Text} (h : Registry.standard.supports type = true) :
    ∃ f label, Registry.standard.functionFor type = .ok f ∧
      Registry.standard.yAxisFor type = .ok label := by
  have hcomplete : ∀ e ∈ Registry.standard, e.2.function.isSome ∧ e.2.yAxis.isSome := by decide
  obtain ⟨entry, hentry⟩ := Option.isSome_iff_exists.1 h
  obtain ⟨hfunction, hlabel⟩ := hcomplete _ (Registry.mem_of_find?_eq_some hentry)
  obtain ⟨f, hf⟩ := Option.isSome_iff_exists.1 hfunction
  obtain ⟨label, hl⟩ := Option.isSome_iff_exists.1 hlabel
  dsimp only at hf hl
  refine ⟨f, label, ?_, ?_⟩
  · rw [Registry.functionFor, hentry]
    dsimp only
    rw [hf]
  · rw [Registry.yAxisFor, hentry]
    dsimp only
    rw [hl]

theorem exists_treat_standard (d : Decision) :
    ∃ t, treat Registry.standard metric endpoint build d = .ok t := by
  rw [treat]
  cases htype : d.localType? with
  | none => exact ⟨_, rfl⟩
  | some type =>
    dsimp only
    by_cases hsupports : Registry.standard.supports type = true
    · obtain ⟨f, label, hf, hlabel⟩ := exists_of_supports_standard hsupports
      obtain ⟨shape, -, hrender⟩ := PromQL.render_standard hf
      rw [if_pos hsupports, decisionPanel, hf, hlabel]
      show ∃ t, Except.map _ ((Except.mapError _ (f.render _ _)) >>= _) = _
      rw [hrender]
      exact ⟨_, rfl⟩
    · rw [if_neg hsupports]
      exact ⟨_, rfl⟩

theorem treatAll_standard (ds : List Decision) :
    (treatAll Registry.standard metric endpoint build ds).2 = none := by
  induction ds with
  | nil => rfl
  | cons d ds ih =>
    have hd : ∃ t, treat Registry.standard metric endpoint build d = .ok t := exists_treat_standard d
    obtain ⟨t, ht⟩ := hd
    rw [treatAll, ht]
    exact ih

end DashboardSynthesis
