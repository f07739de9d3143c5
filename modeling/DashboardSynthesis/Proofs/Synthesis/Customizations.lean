import DashboardSynthesis.Proofs.Synthesis.Effects
import DashboardSynthesis.Proofs.Template.OnePass

/-!
# Customizations

A synthesis customizes a template at most once: it does so exactly if the template can be read, whatever comes
of the customized text later.  What it gives is then made of the customized text and nothing else of the
template and the identity (`finished`).  `Customizes` says that of one synthesis, for some identity;
`DrawsFor` says of sessions which identity it is: for each customization one id and one uid are drawn, and the
customization takes these.  Both hold of every synthesis whose next id can be written
(`dashboard_customizes`).  A customization takes its identity for all markers of the id and of the uid, since
it goes through the template in one pass (`Customization.isMadeWith`).
-/

namespace DashboardSynthesis

/-- A template that is customized for a request with an identity. -/
structure Customization where
  request : DashboardRequest
  template : Text
  identity : Identity

/-- The customized text: every marker of the template is replaced, the id and the uid wherever they occur by
those of the identity. -/
def Customization.text (c : Customization) : Text :=
  customize (markerValue c.request.endpoint c.request.build.artifactId c.request.build.version c.identity)
    c.template

/-- The text is made from the template in one pass, in which each marker of the id is replaced by this id, and
each marker of the uid by this uid. -/
def Customization.IsMadeWith (c : Customization) (id : Int) (uid : Text) : Prop :=
  ∃ value replace, IsOnePass value replace ∧ value .id = Text.ofInt id ∧ value .uid = uid ∧
    c.text = replace c.template

theorem Customization.isMadeWith (c : Customization) : c.IsMadeWith c.identity.id c.identity.uid :=
  ⟨_, _, isOnePass_customize _, rfl, rfl, rfl⟩

/-- From one session to the next, an id and a uid have been drawn for each customization, and the
customizations have them in the order in which they were drawn. -/
structure IdentitySource.DrawsFor (source : IdentitySource) (σ σ' : Session) (cs : List Customization) :
    Prop where
  ids : σ'.idsDrawn = σ.idsDrawn + cs.length
  uids : σ'.uidsDrawn = σ.uidsDrawn + cs.length
  inOrder : ∀ (i : ℕ) c, cs[i]? = some c →
    c.identity = ⟨source.id (σ.idsDrawn + i), source.uid (σ.uidsDrawn + i)⟩

namespace IdentitySource.DrawsFor

variable {source : IdentitySource} {σ σ₁ σ' : Session} {cs cs' : List Customization} {c : Customization}

theorem nil (hids : σ'.idsDrawn = σ.idsDrawn) (huids : σ'.uidsDrawn = σ.uidsDrawn) :
    source.DrawsFor σ σ' [] :=
  ⟨hids, huids, fun _ _ h => absurd h (by simp)⟩

theorem single (hids : σ'.idsDrawn = σ.idsDrawn + 1) (huids : σ'.uidsDrawn = σ.uidsDrawn + 1)
    (hc : c.identity = ⟨source.id σ.idsDrawn, source.uid σ.uidsDrawn⟩) : source.DrawsFor σ σ' [c] := by
  refine ⟨hids, huids, fun i c' h => ?_⟩
  cases i with
  | zero =>
    rw [← Option.some_inj.1 h]
    exact hc
  | succ i => exact absurd h (by simp)

/-- Customizations that come later take what is drawn later. -/
theorem append (h : source.DrawsFor σ σ₁ cs) (h' : source.DrawsFor σ₁ σ' cs') :
    source.DrawsFor σ σ' (cs ++ cs') := by
  refine ⟨?_, ?_, fun i c hc => ?_⟩
  · rw [h'.ids, h.ids, List.length_append, Nat.add_assoc]
  · rw [h'.uids, h.uids, List.length_append, Nat.add_assoc]
  · rcases Nat.lt_or_ge i cs.length with hi | hi
    · rw [List.getElem?_append_left hi] at hc
      exact h.inOrder i c hc
    · rw [List.getElem?_append_right hi] at hc
      have hlater := h'.inOrder _ c hc
      rw [h.ids, h.uids, Nat.add_assoc, Nat.add_assoc, Nat.add_sub_cancel' hi] at hlater
      exact hlater

end IdentitySource.DrawsFor

namespace Run

variable {α β : Type} {x : Run α} {f : α → Run β}

/-- The command changes nothing but the log and the warnings. -/
def LogsAndWarns : Run α → Prop :=
  Changes fun σ σ' => ∃ warnings l, σ' = (σ.withWarnings warnings).withLog l

theorem LogsOnly.logsAndWarns (hx : LogsOnly x) : LogsAndWarns x := by
  intro σ
  obtain ⟨l, hl⟩ := hx σ
  exact ⟨σ.warnings, l, hl⟩

theorem logsAndWarns_bind (hx : LogsAndWarns x) (hf : ∀ a, LogsAndWarns (f a)) : LogsAndWarns (x >>= f) :=
  changes_bind (fun ⟨_, _, h⟩ ⟨w, l, h'⟩ => ⟨w, l, by rw [h', h]; rfl⟩) hx hf

end Run

namespace Synthesizer

/-- What becomes of a customized text: the text of the dashboard, or how it comes that there is none. -/
def finished (s : Synthesizer) (flavor : Flavor) (r : DashboardRequest) (customized : Text) :
    Except Failure Text := do
  let d ← documentOutcome r (r.title flavor) customized
  let final ← (s.extended r d flavor).mapError fun defect => .reported defect.report
  (final.serialize (some s.indent)).mapError (writeFailure (r.title flavor))

/-- A synthesis customizes its template if that can be read, and gives what becomes of the text; otherwise it
customizes nothing, and says so. -/
inductive Customizes (s : Synthesizer) (flavor : Flavor) (r : DashboardRequest) (σ : Session) :
    List Customization → Except Failure Text → Prop where
  | unread {fault : TemplateFault} (hload : loadTemplate σ.files σ.home r.template = .error fault) :
      Customizes s flavor r σ [] (.error (templateFailure r (r.title flavor) fault))
  | once {template : Text} (hload : loadTemplate σ.files σ.home r.template = .ok template)
      (identity : Identity) : Customizes s flavor r σ [⟨r, template, identity⟩]
        (s.finished flavor r (Customization.text ⟨r, template, identity⟩))

variable {s : Synthesizer} {flavor : Flavor} {r : DashboardRequest} {σ τ : Session} {template title : Text}
  {cs : List Customization} {outcome : Except Failure Text}

/-- What is customized depends on the files alone. -/
theorem Customizes.congr (h : s.Customizes flavor r σ cs outcome) (hfiles : τ.files = σ.files)
    (hhome : τ.home = σ.home) : s.Customizes flavor r τ cs outcome := by
  cases h with
  | unread hload => exact .unread (by rw [hfiles, hhome, hload])
  | once hload identity => exact .once (by rw [hfiles, hhome, hload]) identity

theorem Customizes.length_le (h : s.Customizes flavor r σ cs outcome) : cs.length ≤ 1 := by
  cases h <;> simp

/-! ## One synthesis -/

theorem logsAndWarns_addDecisions (decisions : List Decision) (document : Document) :
    Run.LogsAndWarns (s.addDecisions r title decisions document) := fun σ =>
  ⟨_, exists_addDecisions_eq decisions document σ⟩

/-- A template that cannot be read ends a synthesis before anything is drawn. -/
theorem dashboard_on_of_load_error (s : Synthesizer) (flavor : Flavor) {fault : TemplateFault}
    (hload : loadTemplate σ.files σ.home r.template = .error fault) :
    ∃ l, (s.dashboard flavor r).on σ =
      (.error (templateFailure r (r.title flavor) fault), σ.withLog l) := by
  have hlogs : Run.LogsOnly (readTemplate r (r.title flavor)) := logsOnly_readTemplate
  obtain ⟨l, hl⟩ := hlogs σ
  have hread : (readTemplate r (r.title flavor)).on σ =
      (.error (templateFailure r (r.title flavor) fault), σ.withLog l) := by
    refine Prod.ext ?_ hl
    rw [readTemplate_on_fst, hload]
    rfl
  exact ⟨l, Run.on_bind_error (Run.on_bind_error hread)⟩

/-- Behind its start a synthesis only logs and warns. -/
theorem exists_dashboard_eq (s : Synthesizer) (flavor : Flavor) (r : DashboardRequest) :
    ∃ rest : Document → Run Text, s.dashboard flavor r = s.start r (r.title flavor) >>= rest ∧
      ∀ d, Run.LogsAndWarns (rest d) := by
  refine ⟨_, rfl, fun d => ?_⟩
  cases flavor with
  | decisionModel decisions =>
    exact Run.logsAndWarns_bind (logsAndWarns_addDecisions decisions d) fun final =>
      (logsOnly_serialize final).logsAndWarns
  | operational | ruleUnit => exact (logsOnly_serialize d).logsAndWarns

/-- A template that can be read costs one id and one uid, and nothing is drawn once it is customized. -/
theorem dashboard_on_of_load (flavor : Flavor) (hload : loadTemplate σ.files σ.home r.template = .ok template)
    (hid : s.idIsPrintable σ = true) :
    ∃ warnings l, (s.dashboard flavor r).on σ =
      (s.finished flavor r (s.customized r σ template), (σ.drawn.withWarnings warnings).withLog l) := by
  have hread : (readTemplate r (r.title flavor)).on σ = (.ok template, σ) := by
    rw [readTemplate_on, hload]
  have hdraw : s.identity.draw.on σ =
      (.ok ⟨s.identity.id σ.idsDrawn, s.identity.uid σ.uidsDrawn⟩, σ.drawn) :=
    (IdentitySource.draw_on s.identity σ).trans (if_pos hid)
  obtain ⟨document, hdocument, hstart⟩ : ∃ document : Run Document, Run.LogsOnly document ∧
      (s.start r (r.title flavor)).on σ = document.on σ.drawn :=
    ⟨_, logsOnly_document (s.customized r σ template), (Run.on_bind_ok hread).trans (Run.on_bind_ok hdraw)⟩
  obtain ⟨rest, hdashboard, hrest⟩ := exists_dashboard_eq s flavor r
  obtain ⟨warnings, l, hσ⟩ := Run.logsAndWarns_bind hdocument.logsAndWarns hrest σ.drawn
  refine ⟨warnings, l, Prod.ext ?_ ?_⟩
  · rw [dashboard_on_fst, outcome, edited_of_load hload hid, finished, bind_assoc]
  · rw [hdashboard, Run.on_bind, hstart, ← Run.on_bind]
    exact hσ

/-- **One synthesis.**  It customizes its template if it can read it, and has drawn what it takes for that. -/
theorem dashboard_customizes (s : Synthesizer) (flavor : Flavor) (r : DashboardRequest)
    (hid : s.idIsPrintable σ = true) :
    ∃ cs, s.Customizes flavor r σ cs ((s.dashboard flavor r).on σ).1 ∧
      s.identity.DrawsFor σ ((s.dashboard flavor r).on σ).2 cs := by
  cases hload : loadTemplate σ.files σ.home r.template with
  | error fault =>
    obtain ⟨l, hon⟩ := dashboard_on_of_load_error s flavor hload
    rw [hon]
    exact ⟨[], .unread hload, .nil rfl rfl⟩
  | ok template =>
    obtain ⟨warnings, l, hon⟩ := dashboard_on_of_load flavor hload hid
    rw [hon]
    exact ⟨_, .once hload ⟨s.identity.id σ.idsDrawn, s.identity.uid σ.uidsDrawn⟩, .single rfl rfl rfl⟩

end Synthesizer
end DashboardSynthesis
