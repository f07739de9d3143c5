import DashboardSynthesis.Proofs.Decision.Treatment
import DashboardSynthesis.Proofs.Session.Effects
import DashboardSynthesis.Proofs.Synthesis.Outcome

/-!
# What a synthesis does to a session

A synthesis reads the files and never changes them (`keepsFiles_dashboard`).  One that succeeds has drawn
one identity, has added the warnings about the decisions that are skipped, and has done nothing else but
logging (`of_dashboard`).  In the standard registry there are such warnings exactly if there is a decision
that is not supported (`skipWarnings_eq_nil_iff`).
-/

namespace DashboardSynthesis

/-- The decisions that a flavor makes panels of. -/
def Flavor.decisions : Flavor → List Decision
  | .decisionModel decisions => decisions
  | .operational | .ruleUnit => []

namespace Session

/-- The session once an identity has been drawn. -/
@[simps] def drawn (σ : Session) : Session :=
  { σ with idsDrawn := σ.idsDrawn + 1, uidsDrawn := σ.uidsDrawn + 1 }

/-- The session once a dashboard has been synthesized, with these warnings. -/
def synthesized (σ : Session) (warnings : List Text) (log : List LogEvent) : Session :=
  (σ.drawn.withWarnings (σ.warnings ++ warnings)).withLog log

theorem synthesized_nil (σ : Session) (log : List LogEvent) :
    σ.synthesized [] log = σ.drawn.withLog log := by
  rw [synthesized, List.append_nil]
  rfl

/-- Two dashboards, the first of which has nothing to warn of. -/
theorem synthesized_synthesized_nil (σ : Session) (warnings : List Text) (log log' : List LogEvent) :
    (σ.synthesized [] log).synthesized warnings log' = σ.drawn.synthesized warnings log' := by
  rw [synthesized_nil]
  rfl

end Session

namespace Synthesizer

/-- The warnings about the decisions that are skipped. -/
def skipWarnings (s : Synthesizer) (r : DashboardRequest) (decisions : List Decision) : List Text :=
  (treatAll s.registry s.metric r.endpoint r.build decisions).1.filterMap Treatment.warning?

variable {s : Synthesizer} {r : DashboardRequest} {flavor : Flavor} {title : Text} {σ σ' : Session}

/-! ## The steps -/

theorem logsOnly_readTemplate : Run.LogsOnly (readTemplate r title) := by
  intro σ
  rw [readTemplate_on]
  split
  · exact ⟨σ.log, rfl⟩
  · exact ⟨σ.log, rfl⟩
  · exact σ.exists_logged_eq _

theorem logsOnly_parseTemplate (text : Text) : Run.LogsOnly (parseTemplate r title text) := by
  intro σ
  rw [parseTemplate_on]
  split
  case h_2 => exact σ.exists_logged_eq _
  all_goals exact ⟨σ.log, rfl⟩

theorem logsOnly_serialize (document : Document) : Run.LogsOnly (s.serialize title document) := by
  intro σ
  rw [serialize_on]
  split
  case h_1 => exact σ.exists_logged_eq _
  case h_2 => exact σ.exists_logged_eq _
  all_goals exact ⟨σ.log, rfl⟩

/-- What is done to a template that has been read and customized only logs. -/
theorem logsOnly_document (text : Text) : Run.LogsOnly (do
    let document ← parseTemplate r title text
    match titled? r title document with
    | some document => pure document
    | none => Run.breakWith .linkNotAnObject) := by
  refine Run.logsOnly_bind (logsOnly_parseTemplate text) fun document => ?_
  split <;> exact Run.logsOnly_of_eq fun _ => rfl

theorem keepsFiles_draw (source : IdentitySource) : Run.KeepsFiles source.draw := by
  intro σ
  rw [IdentitySource.draw_on]
  split <;> rfl

theorem of_draw {source : IdentitySource} {identity : Identity}
    (h : source.draw.on σ = (.ok identity, σ')) : σ' = σ.drawn := by
  rw [IdentitySource.draw_on] at h
  split at h
  · exact (Prod.mk.inj h).2.symm
  · exact absurd (Prod.mk.inj h).1 (by simp)

theorem keepsFiles_start : Run.KeepsFiles (s.start r title) :=
  Run.keepsFiles_bind logsOnly_readTemplate.keepsFiles fun _ =>
    Run.keepsFiles_bind (keepsFiles_draw s.identity) fun _ => (logsOnly_document _).keepsFiles

theorem of_start {document : Document} (h : (s.start r title).on σ = (.ok document, σ')) :
    ∃ l, σ' = σ.drawn.withLog l := by
  obtain ⟨template, σ₁, hread, hrest⟩ := Run.exists_of_on_bind h
  obtain ⟨identity, σ₂, hdraw, hdocument⟩ := Run.exists_of_on_bind hrest
  obtain ⟨l, hlog⟩ := logsOnly_readTemplate.of_eq hread
  obtain ⟨l', hlog'⟩ := (logsOnly_document _).of_eq hdocument
  refine ⟨l', ?_⟩
  rw [hlog', of_draw hdraw, hlog]
  rfl

/-- Whatever comes of adding panels for decisions, it has only logged and warned about those that are
skipped. -/
theorem exists_addDecisions_eq (decisions : List Decision) (document : Document) (σ : Session) :
    ∃ l, ((s.addDecisions r title decisions document).on σ).2 =
      (σ.withWarnings (σ.warnings ++ s.skipWarnings r decisions)).withLog l := by
  rw [addDecisions_on, skipWarnings]
  generalize treatAll s.registry s.metric r.endpoint r.build decisions = treated
  obtain ⟨ts, _ | defect⟩ := treated
  · obtain ⟨l, hl⟩ := σ.exists_treated_eq ts
    obtain ⟨l', hl'⟩ := (σ.treated ts).exists_logged_eq (.decisionPanelsAdded title
      (ts.filterMap Treatment.content?).length (ts.filterMap Treatment.warning?).length)
    refine ⟨l', hl'.trans ?_⟩
    rw [hl]
    rfl
  · exact σ.exists_treated_eq ts

theorem keepsFiles_addDecisions (decisions : List Decision) (document : Document) :
    Run.KeepsFiles (s.addDecisions r title decisions document) := by
  intro σ
  obtain ⟨l, hl⟩ := exists_addDecisions_eq decisions document σ
  rw [hl]
  rfl

theorem of_addDecisions {decisions : List Decision} {document final : Document}
    (h : (s.addDecisions r title decisions document).on σ = (.ok final, σ')) :
    ∃ l, σ' = (σ.withWarnings (σ.warnings ++ s.skipWarnings r decisions)).withLog l := by
  obtain ⟨l, hl⟩ := exists_addDecisions_eq decisions document σ
  rw [h] at hl
  exact ⟨l, hl⟩

/-! ## The whole -/

theorem keepsFiles_dashboard (flavor : Flavor) : Run.KeepsFiles (s.dashboard flavor r) := by
  refine Run.keepsFiles_bind keepsFiles_start fun document => ?_
  cases flavor with
  | decisionModel decisions =>
    exact Run.keepsFiles_bind (keepsFiles_addDecisions decisions document) fun final =>
      (logsOnly_serialize final).keepsFiles
  | operational => exact (logsOnly_serialize document).keepsFiles
  | ruleUnit => exact (logsOnly_serialize document).keepsFiles

/-- **A synthesis that succeeds** gives the text that it should, and leaves behind an identity that has
been drawn and warnings about the decisions that are skipped. -/
theorem of_dashboard {text : Text} (h : (s.dashboard flavor r).on σ = (.ok text, σ')) :
    s.outcome flavor r σ = .ok text ∧
      ∃ l, σ' = σ.synthesized (s.skipWarnings r flavor.decisions) l := by
  refine ⟨by rw [← dashboard_on_fst, h], ?_⟩
  obtain ⟨document, σ₁, hstart, hrest⟩ := Run.exists_of_on_bind h
  obtain ⟨l, rfl⟩ := of_start hstart
  cases flavor with
  | decisionModel decisions =>
    obtain ⟨final, σ₂, hadd, hserialize⟩ := Run.exists_of_on_bind hrest
    obtain ⟨l', rfl⟩ := of_addDecisions hadd
    obtain ⟨l'', rfl⟩ := (logsOnly_serialize final).of_eq hserialize
    exact ⟨l'', rfl⟩
  | operational | ruleUnit =>
    have hserialize : (s.serialize _ document).on _ = (.ok text, σ') := hrest
    obtain ⟨l', rfl⟩ := (logsOnly_serialize document).of_eq hserialize
    exact ⟨l', (Session.synthesized_nil σ l').symm⟩

/-- No warnings, no decisions that are skipped. -/
theorem skipWarnings_eq_nil_iff (h : s.registry = Registry.standard) (decisions : List Decision) :
    s.skipWarnings r decisions = [] ↔ ∀ d ∈ decisions, d.isSupported Registry.standard = true := by
  rw [skipWarnings, h]
  have hall : (treatAll Registry.standard s.metric r.endpoint r.build decisions).2 = none :=
    treatAll_standard decisions
  have hwarnings := forall₂_warnings (Prod.ext rfl hall)
  rw [← List.length_eq_zero_iff, ← hwarnings.length_eq, List.length_eq_zero_iff, List.filter_eq_nil_iff]
  simp

end Synthesizer
end DashboardSynthesis
