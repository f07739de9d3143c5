import DashboardSynthesis.Proofs.Decision.Treatment

/-!
# Decisions that meet a defect of the registry

A look-up of a function, its rendering and a look-up of an axis label can each fail, and a type that is
supported can still fail in any of them.  `TypeEntry.IsDefective` says it of the entry alone, once for all
three, and a decision cannot be treated exactly if the entry for its type is defective
(`exists_treat_iff`).

`treatAll` comes to a defect exactly if some decision meets one (`treatAll_snd_eq_none_iff`).  Which one
that is, and what has been decided by then, is said by cutting the list there (`exists_of_treatAll_some`):
what stands in front of it has been treated as a list of its own.
-/

namespace DashboardSynthesis

/-- The entry lacks something that the panel of a decision needs: a function, an axis label, the quantile of
a histogram, or a shape for the query. -/
def TypeEntry.IsDefective (entry : TypeEntry) : Prop :=
  entry.function = none ∨ entry.yAxis = none ∨
    ∃ f, entry.function = some f ∧
      ((f.kind = .histogramQuantile ∧ f.quantile = none) ∨ ∃ name, f.kind = .other name)

/-- The type of the decision is in the registry, with an entry that is defective. -/
def Decision.MeetsDefect (registry : Registry) (d : Decision) : Prop :=
  ∃ type entry, d.localType? = some type ∧ registry.find? type = some entry ∧ entry.IsDefective

variable {registry : Registry} {metric endpoint : Text} {build : Build}

/-! ## One decision -/

namespace PromQL

/-- A function is rendered unless its shape is unknown or it lacks its quantile. -/
theorem QueryFunction.exists_render_iff {f : QueryFunction} {metric : Text} {matchers : List Matcher} :
    (∃ query, f.render metric matchers = .ok query) ↔
      ¬ ((f.kind = .histogramQuantile ∧ f.quantile = none) ∨ ∃ name, f.kind = .other name) := by
  rw [QueryFunction.render.eq_def]
  cases hkind : f.kind with
  | gaugeValue => simp
  | counterRate =>
    dsimp only
    split <;> simp
  | histogramQuantile => cases f.quantile <;> simp
  | other name => simp

end PromQL

theorem Registry.functionFor_eq_ok_iff {type : Text} {entry : TypeEntry} {f : PromQL.QueryFunction}
    (hentry : registry.find? type = some entry) :
    registry.functionFor type = .ok f ↔ entry.function = some f := by
  rw [functionFor, hentry]
  dsimp only
  split
  · next hnone => simp [hnone]
  · next hsome => simp [hsome]

theorem Registry.yAxisFor_eq_ok_iff {type label : Text} {entry : TypeEntry}
    (hentry : registry.find? type = some entry) :
    registry.yAxisFor type = .ok label ↔ entry.yAxis = some label := by
  rw [yAxisFor, hentry]
  dsimp only
  split
  · next hnone => simp [hnone]
  · next hsome => simp [hsome]

/-- A decision of a supported type gets its panel if nothing is missing in the entry. -/
theorem exists_decisionPanel_iff {d : Decision} {type : Text} {entry : TypeEntry}
    (hentry : registry.find? type = some entry) :
    (∃ content, decisionPanel registry metric endpoint build d type = .ok content) ↔
      ¬ entry.IsDefective := by
  have hsteps : (∃ content, decisionPanel registry metric endpoint build d type = .ok content) ↔
      ∃ f, entry.function = some f ∧
        (∃ query, f.render metric (decisionMatchers endpoint build d) = .ok query) ∧
          ∃ label, entry.yAxis = some label := by
    simp only [decisionPanel, exists_bind_eq_ok_iff, Registry.functionFor_eq_ok_iff hentry,
      Registry.yAxisFor_eq_ok_iff hentry, ← exists_mapError_eq_ok_iff (f := RegistryDefect.query), pure,
      Except.pure, Except.ok.injEq, exists_eq', and_true, exists_and_right]
  rw [hsteps, TypeEntry.IsDefective]
  simp only [PromQL.QueryFunction.exists_render_iff]
  cases entry.function with
  | none => simp
  | some f => cases entry.yAxis <;> simp

/-- **A decision is treated unless it meets a defect.** -/
theorem exists_treat_iff {d : Decision} :
    (∃ t, treat registry metric endpoint build d = .ok t) ↔ ¬ d.MeetsDefect registry := by
  rw [treat, Decision.MeetsDefect]
  cases d.localType? with
  | none => simp
  | some type =>
    dsimp only
    cases hentry : registry.find? type with
    | none => simp [Registry.supports, hentry]
    | some entry =>
      have hpanel : (∃ content, decisionPanel registry metric endpoint build d type = .ok content) ↔
          ¬ entry.IsDefective := exists_decisionPanel_iff hentry
      rw [if_pos (by simp [Registry.supports, hentry])]
      cases hcontent : decisionPanel registry metric endpoint build d type with
      | error defect =>
        rw [hcontent] at hpanel
        simpa [Except.map, hentry] using hpanel
      | ok content =>
        rw [hcontent] at hpanel
        simpa [Except.map, hentry] using hpanel

/-! ## All decisions -/

/-- **Where the treatment of decisions stops.**  What stands in front of the decision that cannot be treated
is treated as it would be without the rest. -/
theorem exists_of_treatAll_some {ds : List Decision} {ts : List Treatment} {defect : RegistryDefect}
    (h : treatAll registry metric endpoint build ds = (ts, some defect)) :
    ∃ before d after, ds = before ++ d :: after ∧
      treatAll registry metric endpoint build before = (ts, none) ∧
      treat registry metric endpoint build d = .error defect := by
  induction ds generalizing ts with
  | nil => exact absurd (Prod.mk.inj h).2 (by simp)
  | cons d ds ih =>
    rw [treatAll] at h
    split at h
    · next defect' hd =>
      obtain ⟨rfl, hdefect⟩ := Prod.mk.inj h
      obtain rfl := Option.some_inj.1 hdefect
      exact ⟨[], d, ds, rfl, rfl, hd⟩
    · next t ht =>
      obtain ⟨rfl, hdefect⟩ := Prod.mk.inj h
      obtain ⟨before, d', after, rfl, hbefore, hd'⟩ := ih (Prod.ext rfl hdefect)
      refine ⟨d :: before, d', after, rfl, ?_, hd'⟩
      rw [treatAll, ht, hbefore]

theorem treatAll_snd_eq_none_iff {ds : List Decision} :
    (treatAll registry metric endpoint build ds).2 = none ↔ ∀ d ∈ ds, ¬ d.MeetsDefect registry := by
  induction ds with
  | nil => simp [treatAll]
  | cons d ds ih =>
    have htreat : (∃ t, treat registry metric endpoint build d = .ok t) ↔ ¬ d.MeetsDefect registry :=
      exists_treat_iff
    rw [List.forall_mem_cons, ← ih, ← htreat, treatAll]
    cases treat registry metric endpoint build d <;> simp

/-- Every defect of the registry is reported as one. -/
theorem RegistryDefect.kind_report (defect : RegistryDefect) :
    defect.report.kind = .registryInconsistency := by
  cases defect with
  | query why => cases why <;> rfl
  | _ => rfl

end DashboardSynthesis
