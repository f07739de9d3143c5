import DashboardSynthesis.Proofs.Dashboard.Links
import DashboardSynthesis.Proofs.Decision.Defects
import DashboardSynthesis.Proofs.Session.Effects
import DashboardSynthesis.Proofs.Synthesis.Failures

/-!
# A defect of the registry ends a synthesis

The entry for a type is looked at only when a decision of that type comes up.  So a registry may be defective
and a synthesis succeed all the same, and where it does not, something has happened before: the decisions in
front have been treated, and those of them that are skipped have been warned of.

`EndsAtFirstDefect` says both.  A synthesis that gets as far as its decisions ends with a report on the
registry exactly if some decision meets a defect; and it ends at the first one that does, with the warnings
about the decisions in front of it (`endsAtFirstDefect`).  No other step reports on the registry, and the
standard registry is never reported on (`kind_ne_of_standard`).
-/

namespace DashboardSynthesis
namespace Synthesizer

/-- The synthesis ends with a report on the registry exactly if a decision meets a defect of it.  The report
is on the first decision that does, and by then there are warnings about exactly the decisions in front of it
that are skipped. -/
structure EndsAtFirstDefect (s : Synthesizer) (r : DashboardRequest) (decisions : List Decision)
    (σ : Session) : Prop where
  reports_iff : (∃ report, ((s.dashboard (.decisionModel decisions) r).on σ).1 = .error (.reported report) ∧
    report.kind = .registryInconsistency) ↔ ∃ d ∈ decisions, d.MeetsDefect s.registry
  atFirst : ∀ report σ',
    (s.dashboard (.decisionModel decisions) r).on σ = (.error (.reported report), σ') →
    report.kind = .registryInconsistency →
      ∃ before d after, decisions = before ++ d :: after ∧
        (∀ d' ∈ before, ¬ d'.MeetsDefect s.registry) ∧ d.MeetsDefect s.registry ∧
        (∃ defect, treat s.registry s.metric r.endpoint r.build d = .error defect ∧
          report = defect.report) ∧
        ∃ messages, σ'.warnings = σ.warnings ++ messages ∧
          List.Forall₂ IsSkipWarning (before.filter fun d' => !d'.isSupported s.registry) messages

variable {s : Synthesizer} {flavor : Flavor} {r : DashboardRequest} {decisions : List Decision}
  {σ σ₁ : Session} {d : Document}

/-! ## Reports on other things -/

theorem kind_ne_of_parseFailure {title : Text} {fault : Document.Fault} {report : Report}
    (h : parseFailure r title fault = .reported report) : report.kind ≠ .registryInconsistency := by
  cases fault with
  | refused why =>
    rw [← Failure.reported.inj h]
    exact fun h => absurd h (by simp [DashboardRequest.templateReport])
  | _ => exact absurd h (by simp [parseFailure])

theorem kind_ne_of_templateFailure {title : Text} {fault : TemplateFault} {report : Report}
    (h : templateFailure r title fault = .reported report) : report.kind ≠ .registryInconsistency := by
  cases fault with
  | undecodable => exact absurd h (by simp [templateFailure])
  | _ =>
    rw [← Failure.reported.inj h]
    exact fun h => absurd h (by simp [DashboardRequest.templateReport])

theorem kind_ne_of_writeFailure {title : Text} {fault : Document.WriteFault} {report : Report}
    (h : writeFailure title fault = .reported report) : report.kind ≠ .registryInconsistency := by
  cases fault with
  | tooManyDigits =>
    rw [← Failure.reported.inj h]
    exact fun h => absurd h (by simp [serializationReport])
  | _ => exact absurd h (by simp [writeFailure])

/-- Nothing before the decisions reports on the registry. -/
theorem kind_ne_of_startOutcome {title : Text} {report : Report}
    (h : s.startOutcome r title σ = .error (.reported report)) : report.kind ≠ .registryInconsistency := by
  rcases bind_eq_error_iff.1 h with hload | ⟨template, -, hrest⟩
  · obtain ⟨fault, -, hfault⟩ := exists_of_mapError_eq_error hload
    exact kind_ne_of_templateFailure hfault
  · split at hrest
    · rcases bind_eq_error_iff.1 hrest with hparse | ⟨parsed, -, htitled⟩
      · obtain ⟨fault, -, hfault⟩ := exists_of_mapError_eq_error hparse
        exact kind_ne_of_parseFailure hfault
      · split at htitled
        · exact absurd htitled pure_ne_error
        · exact absurd htitled (by simp [throw, throwThe, MonadExceptOf.throw])
    · exact absurd hrest (by simp [throw, throwThe, MonadExceptOf.throw])

/-! ## The decisions -/

/-- A template that is accepted comes as far as the decisions, if its links are objects. -/
theorem exists_startOutcome {title template : Text}
    (hload : loadTemplate σ.files σ.home r.template = .ok template) (hid : s.idIsPrintable σ = true)
    (hparse : Document.parse (s.customized r σ template) = .ok d) (hlinks : d.LinksAreObjects) :
    ∃ d', s.startOutcome r title σ = .ok d' := by
  have hstart : s.startOutcome r title σ = documentOutcome r title (s.customized r σ template) := by
    rw [startOutcome, hload]
    exact if_pos hid
  cases htitled : titled? r title d with
  | none => exact absurd hlinks (titled?_eq_none_iff.1 htitled).2
  | some d' =>
    refine ⟨d', ?_⟩
    rw [hstart, documentOutcome, bind_of_eq_ok (congrArg (Except.mapError (parseFailure r title)) hparse),
      htitled]
    rfl

/-- A synthesis that gets as far as its decisions, and comes to a defect there. -/
theorem dashboard_on_of_defect {ts : List Treatment} {defect : RegistryDefect}
    (hstart : (s.start r (r.title (.decisionModel decisions))).on σ = (.ok d, σ₁))
    (hts : treatAll s.registry s.metric r.endpoint r.build decisions = (ts, some defect)) :
    (s.dashboard (.decisionModel decisions) r).on σ = (.error (.reported defect.report), σ₁.treated ts) := by
  have hadd : (s.addDecisions r (r.title (.decisionModel decisions)) decisions d).on σ₁ =
      (.error (.reported defect.report), σ₁.treated ts) := by
    rw [addDecisions_on, hts]
  exact (Run.on_bind_ok hstart).trans (Run.on_bind_error hadd)

/-- Without a defect, all that can fail is writing. -/
theorem kind_ne_of_treatAll_none {report : Report}
    (hstart : (s.start r (r.title (.decisionModel decisions))).on σ = (.ok d, σ₁))
    (hnone : (treatAll s.registry s.metric r.endpoint r.build decisions).2 = none)
    (h : ((s.dashboard (.decisionModel decisions) r).on σ).1 = .error (.reported report)) :
    report.kind ≠ .registryInconsistency := by
  have hstarted : s.startOutcome r (r.title (.decisionModel decisions)) σ = .ok d := by
    rw [← start_on_fst, hstart]
  have hextended : ∃ final, s.extended r d (.decisionModel decisions) = .ok final := by
    rw [extended]
    generalize treatAll s.registry s.metric r.endpoint r.build decisions = treated at hnone ⊢
    obtain ⟨ts, defect⟩ := treated
    obtain rfl : defect = none := hnone
    exact ⟨_, rfl⟩
  obtain ⟨final, hfinal⟩ := hextended
  have hedited : s.edited (.decisionModel decisions) r σ = .ok final := by
    rw [edited, bind_of_eq_ok hstarted, hfinal]
    rfl
  rw [dashboard_on_fst, outcome_of_edited hedited] at h
  obtain ⟨fault, -, hfault⟩ := exists_of_mapError_eq_error h
  exact kind_ne_of_writeFailure hfault

/-- A synthesis that gets as far as its decisions ends at the first one that meets a defect. -/
theorem endsAtFirstDefect_of_start
    (hstart : (s.start r (r.title (.decisionModel decisions))).on σ = (.ok d, σ₁)) :
    s.EndsAtFirstDefect r decisions σ := by
  have hwarnings : σ₁.warnings = σ.warnings := by
    rw [← keepsWarnings_start s r (r.title (.decisionModel decisions)) σ, hstart]
  rcases hts : treatAll s.registry s.metric r.endpoint r.build decisions with ⟨ts, _ | defect⟩
  · have hnone : (treatAll s.registry s.metric r.endpoint r.build decisions).2 = none := by rw [hts]
    refine ⟨iff_of_false ?_ ?_, fun report σ' h hkind => ?_⟩
    · rintro ⟨report, h, hkind⟩
      exact kind_ne_of_treatAll_none hstart hnone h hkind
    · rintro ⟨d', hmem, hdefect⟩
      exact treatAll_snd_eq_none_iff.1 hnone d' hmem hdefect
    · exact absurd hkind (kind_ne_of_treatAll_none hstart hnone (congrArg Prod.fst h))
  · have hends := dashboard_on_of_defect hstart hts
    obtain ⟨before, d', after, rfl, hbefore, hd'⟩ := exists_of_treatAll_some hts
    have hmeets : d'.MeetsDefect s.registry := by
      by_contra hsound
      obtain ⟨t, ht⟩ := exists_treat_iff.2 hsound
      exact absurd (hd'.symm.trans ht) (by simp)
    refine ⟨iff_of_true ?_ ?_, fun report σ' h _ => ?_⟩
    · exact ⟨defect.report, congrArg Prod.fst hends, defect.kind_report⟩
    · exact ⟨d', List.mem_append_right _ List.mem_cons_self, hmeets⟩
    · obtain ⟨hreport, rfl⟩ := Prod.mk.inj (hends.symm.trans h)
      obtain rfl := Failure.reported.inj (Except.error.inj hreport)
      refine ⟨before, d', after, rfl, treatAll_snd_eq_none_iff.1 (congrArg Prod.snd hbefore), hmeets,
        ⟨defect, hd', rfl⟩, ts.filterMap Treatment.warning?, ?_, forall₂_warnings hbefore⟩
      rw [Session.warnings_treated, hwarnings]

/-! ## The whole -/

/-- The standard registry is never reported on. -/
theorem kind_ne_of_standard (hregistry : s.registry = Registry.standard) {report : Report}
    (h : ((s.dashboard flavor r).on σ).1 = .error (.reported report)) :
    report.kind ≠ .registryInconsistency := by
  rw [dashboard_on_fst] at h
  rcases bind_eq_error_iff.1 h with hedited | ⟨final, -, hwrite⟩
  · rcases bind_eq_error_iff.1 hedited with hstart | ⟨d, -, hextended⟩
    · exact kind_ne_of_startOutcome hstart
    · obtain ⟨final, hfinal⟩ : ∃ final, s.extended r d flavor = .ok final := exists_extended hregistry d
      rw [hfinal] at hextended
      exact absurd hextended (by simp [Except.mapError])
  · obtain ⟨fault, -, hfault⟩ := exists_of_mapError_eq_error hwrite
    exact kind_ne_of_writeFailure hfault

/-- **A defect of the registry is fatal, and is reported where it is met.**  A synthesis on a template that is
accepted, with links that are objects, ends with a report on the registry exactly if a decision meets a defect
of it, and then at the first decision that does; with the standard registry no synthesis at all ends so. -/
theorem endsAtFirstDefect {template : Text} (hload : loadTemplate σ.files σ.home r.template = .ok template)
    (hid : s.idIsPrintable σ = true) (hparse : Document.parse (s.customized r σ template) = .ok d)
    (hlinks : d.LinksAreObjects) (decisions : List Decision) :
    s.EndsAtFirstDefect r decisions σ ∧
      ∀ (identity : IdentitySource) (metric : Text) (indent : Int) (flavor : Flavor) (r : DashboardRequest)
        (σ : Session) (report : Report),
        (((Synthesizer.mk identity metric indent Registry.standard).dashboard flavor r).on σ).1 =
          .error (.reported report) → report.kind ≠ .registryInconsistency := by
  refine ⟨?_, fun identity metric indent flavor r σ report h => kind_ne_of_standard rfl h⟩
  obtain ⟨d', hstarted⟩ := exists_startOutcome hload hid hparse hlinks
  obtain ⟨σ₁, hstart⟩ := Run.exists_of_on_fst ((start_on_fst s r σ _).trans hstarted)
  exact endsAtFirstDefect_of_start hstart

/-- A registry in which a histogram has no quantile. -/
def gappyRegistry : Registry :=
  [("string", ⟨some Registry.evaluationRate, some "evaluations/s"⟩),
   ("number", ⟨some { kind := .histogramQuantile }, some "value"⟩)]

def gappySynthesizer : Synthesizer :=
  { identity := .fixed ⟨7, "u"⟩, metric := "m", indent := 2, registry := gappyRegistry }

def gappyRequest : DashboardRequest :=
  { template := "t", name := "loan", endpoint := "e", build := ⟨"a", "1"⟩, auditLink := true }

/-- A session in which the file `t` holds an empty dashboard, and something has been warned of. -/
def gappySession : Session :=
  { files := ⟨[(["t"], .file "\x7b\x7d".toUTF8)]⟩, home := [], warnings := ["w"] }

/-- A decision without a type, one of a type with all that it needs, one of the histogram's type, and one of
a type that is not supported. -/
def gappyDecisions : List Decision :=
  [{ name := "a", identifier := "a" }, { name := "b", identifier := "b", valueType := some "feel:string" },
   { name := "c", identifier := "c", valueType := some "number" },
   { name := "d", identifier := "d", valueType := some "list" }]

theorem endsAtFirstDefect_noQuantile : ∃ template d,
    loadTemplate gappySession.files gappySession.home gappyRequest.template = .ok template ∧
    gappySynthesizer.idIsPrintable gappySession = true ∧
    Document.parse (gappySynthesizer.customized gappyRequest gappySession template) = .ok d ∧
    d.LinksAreObjects ∧ gappySynthesizer.EndsAtFirstDefect gappyRequest gappyDecisions gappySession ∧
    ∃ report, ((gappySynthesizer.dashboard (.decisionModel gappyDecisions) gappyRequest).on gappySession).1 =
      .error (.reported report) ∧ report.kind = .registryInconsistency := by
  have hload : loadTemplate gappySession.files gappySession.home gappyRequest.template =
      .ok "\x7b\x7d" := by decide +kernel
  have hid : gappySynthesizer.idIsPrintable gappySession = true := by decide +kernel
  have hparse :
      (Document.parse (gappySynthesizer.customized gappyRequest gappySession "\x7b\x7d")).toOption.any
        (fun d => d.links.all Json.isObject) = true := by decide +kernel
  obtain ⟨d, hd, hlinks⟩ := (Option.any_eq_true _ _).1 hparse
  have hends := (endsAtFirstDefect hload hid (eq_ok_of_toOption_eq_some hd) (List.all_eq_true.1 hlinks)
    gappyDecisions).1
  refine ⟨_, d, hload, hid, eq_ok_of_toOption_eq_some hd, List.all_eq_true.1 hlinks, hends, ?_⟩
  refine hends.reports_iff.2 ⟨_, List.mem_of_getElem? (show gappyDecisions[2]? = some _ from rfl), "number",
    _, rfl, rfl, ?_⟩
  exact .inr (.inr ⟨_, rfl, .inl ⟨rfl, rfl⟩⟩)

end Synthesizer
end DashboardSynthesis
