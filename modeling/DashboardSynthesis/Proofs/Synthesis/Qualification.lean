import DashboardSynthesis.Proofs.Decision.LocalNames
import DashboardSynthesis.Proofs.Synthesis.DecisionDashboard
import DashboardSynthesis.Proofs.Synthesis.Effects

/-!
# Qualified types in a synthesis

Types of decisions may be declared in different forms, behind a qualifier or with blanks around them.  What a
synthesis gives, or how it fails, does not depend on that, and neither do its warnings
(`qualification_isImmaterial`): both depend on a type through its local name alone.
-/

namespace DashboardSynthesis
namespace Synthesizer

variable {s : Synthesizer} {r : DashboardRequest} {σ : Session} {ds ds' : List Decision}

/-! ## Two lists of decisions -/

section Forms

variable (h : List.Forall₂ Decision.IsRequalified ds ds')

include h

theorem extended_congr (d : Document) :
    s.extended r d (.decisionModel ds') = s.extended r d (.decisionModel ds) := by
  obtain ⟨heffects, hdefect⟩ := effects_treatAll_congr s.registry s.metric r.endpoint r.build h
  rw [extended, extended]
  generalize treatAll s.registry s.metric r.endpoint r.build ds' = treated' at heffects hdefect ⊢
  generalize treatAll s.registry s.metric r.endpoint r.build ds = treated at heffects hdefect ⊢
  obtain ⟨ts, defect⟩ := treated
  obtain ⟨ts', defect'⟩ := treated'
  obtain rfl : defect' = defect := hdefect
  cases defect' with
  | some defect => rfl
  | none =>
    dsimp only at heffects ⊢
    rw [filterMap_content?_eq, filterMap_content?_eq, heffects]

theorem outcome_congr : s.outcome (.decisionModel ds') r σ = s.outcome (.decisionModel ds) r σ := by
  -- the title does not tell the decisions
  have htitle : r.title (.decisionModel ds') = r.title (.decisionModel ds) := rfl
  rw [outcome, outcome, edited, edited, htitle]
  simp only [extended_congr h]

theorem warnings_congr : ((s.dashboard (.decisionModel ds') r).on σ).2.warnings =
    ((s.dashboard (.decisionModel ds) r).on σ).2.warnings := by
  obtain ⟨heffects, -⟩ := effects_treatAll_congr s.registry s.metric r.endpoint r.build h
  have htitle : r.title (.decisionModel ds') = r.title (.decisionModel ds) := rfl
  rw [warnings_dashboard, warnings_dashboard, filterMap_warning?_eq, filterMap_warning?_eq, heffects,
    htitle]

end Forms

/-- **Qualification does not matter.**  The local name of a type is what stands behind its last brace or
colon, without blanks at both ends; so neither of these occurs in it, and it is its own local name.  A
synthesis with decisions whose types are declared in other forms ends in the same way, with the same text if
there is one, and gives the same warnings. -/
theorem qualification_isImmaterial :
    (∀ declared name, localTypeName declared = name ↔ IsLocalName declared name) ∧
    (∀ declared, CodePoint.scalar '}' ∉ localTypeName declared ∧
      CodePoint.scalar ':' ∉ localTypeName declared ∧
      localTypeName (localTypeName declared) = localTypeName declared) ∧
    ∀ (s : Synthesizer) (r : DashboardRequest) (σ : Session) (ds ds' : List Decision),
      List.Forall₂ Decision.IsRequalified ds ds' →
      ((s.dashboard (.decisionModel ds') r).on σ).1 = ((s.dashboard (.decisionModel ds) r).on σ).1 ∧
      ((s.dashboard (.decisionModel ds') r).on σ).2.warnings =
        ((s.dashboard (.decisionModel ds) r).on σ).2.warnings := by
  refine ⟨fun declared name => localTypeName_eq_iff, fun declared => ?_,
    fun s r σ ds ds' h => ⟨?_, warnings_congr h⟩⟩
  · have hnone := (isLocalName_localTypeName declared).unqualified
    exact ⟨fun hbrace => hnone _ hbrace rfl, fun hcolon => hnone _ hcolon rfl,
      localTypeName_localTypeName declared⟩
  · rw [dashboard_on_fst, dashboard_on_fst, outcome_congr h]

/-- A decision of a supported type, one of a type that is not supported, and one that declares no type. -/
def plainDecisions : List Decision :=
  [{ name := "rate", identifier := "i", valueType := some "string" },
   { name := "rates", identifier := "k", valueType := some "feel:list" },
   { name := "", identifier := "j" }]

/-- The same decisions, with both types in other forms. -/
def qualifiedDecisions : List Decision :=
  [{ name := "rate", identifier := "i", valueType := some "\x7bhttp://x\x7dfeel:\u2003string\u00a0" },
   { name := "rates", identifier := "k", valueType := some "\tfeel:list\n" },
   { name := "", identifier := "j" }]

theorem requalified_qualifiedDecisions :
    List.Forall₂ Decision.IsRequalified plainDecisions qualifiedDecisions := by
  refine .cons ⟨rfl, rfl, .some ⟨"\x7bhttp://x\x7dfeel:", "\u2003", "\u00a0", ?_, ?_, ?_, ?_⟩⟩
    (.cons ⟨rfl, rfl, .some ⟨"", "\t", "\n", ?_, ?_, ?_, ?_⟩⟩ (.cons ⟨rfl, rfl, .none⟩ .nil))
  all_goals decide

theorem qualification_isImmaterial_feel :
    List.Forall₂ Decision.IsRequalified plainDecisions qualifiedDecisions ∧
    ∃ text σ', (smallSynthesizer.dashboard (.decisionModel plainDecisions) smallRequest).on smallSession =
        (.ok text, σ') ∧ σ'.warnings.length = 2 ∧
      ((smallSynthesizer.dashboard (.decisionModel qualifiedDecisions) smallRequest).on smallSession).1 =
        .ok text ∧
      ((smallSynthesizer.dashboard (.decisionModel qualifiedDecisions) smallRequest).on
        smallSession).2.warnings = σ'.warnings := by
  have hok : (smallSynthesizer.outcome (.decisionModel plainDecisions) smallRequest
      smallSession).isOk = true := by decide +kernel
  have hcount : (smallSynthesizer.skipWarnings smallRequest plainDecisions).length = 2 := by decide +kernel
  obtain ⟨text, houtcome⟩ := exists_eq_ok_of_isOk hok
  obtain ⟨σ', hrun⟩ := Run.exists_of_on_fst ((dashboard_on_fst _ _ _ _).trans houtcome)
  obtain ⟨-, l, hσ'⟩ := of_dashboard hrun
  obtain ⟨htext, hwarnings⟩ := qualification_isImmaterial.2.2 smallSynthesizer smallRequest smallSession
    plainDecisions qualifiedDecisions requalified_qualifiedDecisions
  rw [hrun] at htext hwarnings
  refine ⟨requalified_qualifiedDecisions, text, σ', hrun, ?_, htext, hwarnings⟩
  rw [hσ']
  exact hcount

end Synthesizer
end DashboardSynthesis
