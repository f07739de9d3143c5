import DashboardSynthesis.Proofs.Dashboard.Edits
import DashboardSynthesis.Proofs.Decision.Treatment
import DashboardSynthesis.Proofs.Synthesis.Outcome

/-!
# How a synthesis fails

A synthesis is meant to end in one of three ways: with a text, with a report on the template, or with a
report that the document cannot be written.  `EndsAsDocumented` says which of them is due when.  A
breakdown is none of them.

Some inputs do break a synthesis.  In reading, these are a template that is not in UTF-8, an id or an
integer in the text with too many digits, values nested too deeply, an infinite coordinate, and a link
that is not an object where the audit link is to be added (`ReadingIsForeseen` excludes them).  In
writing, they are a width beyond all widths and a document that has become too deep
(`WritingIsForeseen`).  `endsAsDocumented_iff` says that there are no others, and that each of them does
break the synthesis.
-/

namespace DashboardSynthesis

/-- The report that is due on a template of which nothing can be done. -/
structure IsTemplateReport (r : DashboardRequest) (title : Text) (report : Report) : Prop where
  kind : report.kind = .configuration
  details : report.details =
    ([("dashboard", .str title), ("template", .str r.template)] : Json.Members)

theorem isTemplateReport_templateReport (r : DashboardRequest) (action title : Text) :
    IsTemplateReport r title (r.templateReport action title) := ⟨rfl, rfl⟩

/-- A template that is not in UTF-8 is one whose bytes were found. -/
theorem loadTemplate_eq_undecodable_iff {files : FileTree} {home : Location} {path : Text} :
    loadTemplate files home path = .error .undecodable ↔
      ∃ bytes, templateBytes files home path = .ok bytes ∧ Text.ofFile? bytes = none := by
  have hbytes : templateBytes files home path ≠ .error .undecodable := by
    rw [templateBytes]
    split
    · simp
    · simp
    · split <;> simp
  rw [loadTemplate]
  constructor
  · intro h
    split at h
    · next fault hfault => exact absurd (Except.error.inj h ▸ hfault) hbytes
    · next bytes hfound =>
      refine ⟨bytes, hfound, ?_⟩
      split at h
      · exact absurd h (by simp)
      · assumption
  · rintro ⟨bytes, hfound, hnone⟩
    rw [hfound]
    dsimp only
    rw [hnone]

namespace Synthesizer

/-- The template is read as text, and the customized text is an acceptable dashboard. -/
def TemplateIsAcceptable (s : Synthesizer) (r : DashboardRequest) (σ : Session) : Prop :=
  ∃ template d, loadTemplate σ.files σ.home r.template = .ok template ∧
    Document.parse (s.customized r σ template) = .ok d

/-- How a synthesis is meant to end. -/
structure EndsAsDocumented (s : Synthesizer) (flavor : Flavor) (r : DashboardRequest) (σ : Session) :
    Prop where
  outcomes : (∃ text, ((s.dashboard flavor r).on σ).1 = .ok text) ∨
    ∃ report, ((s.dashboard flavor r).on σ).1 = .error (.reported report) ∧
      (IsTemplateReport r (r.title flavor) report ∨ report.kind = .serialization)
  template_iff : (∃ report, ((s.dashboard flavor r).on σ).1 = .error (.reported report) ∧
    IsTemplateReport r (r.title flavor) report) ↔ ¬ s.TemplateIsAcceptable r σ
  serialization_iff : (∃ report, ((s.dashboard flavor r).on σ).1 = .error (.reported report) ∧
    report.kind = .serialization) ↔
      ∃ d, s.edited flavor r σ = .ok d ∧ ∀ text, d.serialize (some s.indent) ≠ .ok text

/-- Nothing comes up in reading the template, customizing it and giving it title and link that breaks
the synthesis. -/
structure ReadingIsForeseen (s : Synthesizer) (r : DashboardRequest) (σ : Session) : Prop where
  decodes : ∀ bytes, templateBytes σ.files σ.home r.template = .ok bytes →
    ∃ text, Text.ofFile? bytes = some text
  idIsPrintable : ∀ template, loadTemplate σ.files σ.home r.template = .ok template →
    s.idIsPrintable σ = true
  parses : ∀ template fault, loadTemplate σ.files σ.home r.template = .ok template →
    Document.parse (s.customized r σ template) = .error fault → ∃ why, fault = .refused why
  linksAreObjects : ∀ template d, loadTemplate σ.files σ.home r.template = .ok template →
    Document.parse (s.customized r σ template) = .ok d →
    r.auditLink = true → ∀ link ∈ d.links, link.isObject = true

/-- Nothing comes up in writing a document that breaks the synthesis. -/
structure WritingIsForeseen (s : Synthesizer) (d : Document) : Prop where
  width : Document.isWidth s.indent = true
  depth : (Json.obj d.members).depth ≤ Json.nestingLimit

variable {s : Synthesizer} {flavor : Flavor} {r : DashboardRequest} {σ : Session}

/-! ## Reading -/

theorem titled?_eq_none_iff {title : Text} {d : Document} :
    titled? r title d = none ↔ r.auditLink = true ∧ ¬ ∀ link ∈ d.links, link.isObject = true := by
  rw [titled?]
  by_cases haudit : r.auditLink = true
  · rw [if_pos haudit, Document.addLink?, Document.links_setTitle, ← List.all_eq_true]
    split
    · next hall => simp [hall]
    · next hall => simp [haudit, hall]
  · rw [if_neg haudit]
    simp [haudit]

/-- What does not break the synthesis before the document is written is foreseen. -/
theorem readingIsForeseen_of_edited
    (h : ∀ cause, s.edited flavor r σ ≠ .error (.broken cause)) : s.ReadingIsForeseen r σ := by
  have hid : ∀ template, loadTemplate σ.files σ.home r.template = .ok template →
      s.idIsPrintable σ = true := by
    intro template hload
    by_contra hid
    exact h _ (edited_of_not_idIsPrintable hload hid)
  refine ⟨?_, hid, ?_, ?_⟩
  · intro bytes hfound
    refine Option.ne_none_iff_exists'.1 fun hnone => ?_
    exact h _ (edited_of_load_error (loadTemplate_eq_undecodable_iff.2 ⟨bytes, hfound, hnone⟩))
  · intro template fault hload hparse
    have hedited : s.edited flavor r σ = .error (parseFailure r (r.title flavor) fault) :=
      edited_of_parse_error hload (hid template hload) hparse
    cases fault with
    | refused why => exact ⟨why, rfl⟩
    | tooManyDigits digits => exact absurd hedited (h _)
    | tooDeep => exact absurd hedited (h _)
    | infiniteGrid => exact absurd hedited (h _)
  · intro template d hload hparse haudit
    by_contra hlinks
    refine h .linkNotAnObject ?_
    rw [edited_of_parse hload (hid template hload) hparse, titled?_eq_none_iff.2 ⟨haudit, hlinks⟩]

/-- A template that is not acceptable is reported, if nothing breaks. -/
theorem edited_of_not_templateIsAcceptable (hforeseen : s.ReadingIsForeseen r σ)
    (h : ¬ s.TemplateIsAcceptable r σ) :
    ∃ report, IsTemplateReport r (r.title flavor) report ∧
      s.edited flavor r σ = .error (.reported report) := by
  cases hload : loadTemplate σ.files σ.home r.template with
  | error fault =>
    refine ⟨_, isTemplateReport_templateReport r "read" _, (edited_of_load_error hload).trans ?_⟩
    cases fault with
    | notFound path => rfl
    | nameTooLong path => rfl
    | undecodable =>
      obtain ⟨bytes, hfound, hnone⟩ := loadTemplate_eq_undecodable_iff.1 hload
      obtain ⟨text, htext⟩ := hforeseen.decodes bytes hfound
      exact absurd (hnone.symm.trans htext) (by simp)
  | ok template =>
    cases hparse : Document.parse (s.customized r σ template) with
    | ok d => exact absurd ⟨template, d, hload, hparse⟩ h
    | error fault =>
      obtain ⟨why, rfl⟩ := hforeseen.parses template fault hload hparse
      exact ⟨_, isTemplateReport_templateReport r "parse" _,
        edited_of_parse_error hload (hforeseen.idIsPrintable template hload) hparse⟩

/-! ## Editing -/

theorem exists_extended (hregistry : s.registry = Registry.standard) (d : Document) :
    ∃ final, s.extended r d flavor = .ok final := by
  cases flavor with
  | operational => exact ⟨d, rfl⟩
  | ruleUnit => exact ⟨d, rfl⟩
  | decisionModel decisions =>
    have hnone : (treatAll s.registry s.metric r.endpoint r.build decisions).2 = none := by
      rw [hregistry]
      exact treatAll_standard decisions
    rw [extended]
    generalize treatAll s.registry s.metric r.endpoint r.build decisions = treated at hnone ⊢
    obtain ⟨ts, defect⟩ := treated
    obtain rfl : defect = none := hnone
    exact ⟨_, rfl⟩

/-- An acceptable template comes to a document, if nothing breaks. -/
theorem edited_of_templateIsAcceptable (hregistry : s.registry = Registry.standard)
    (hforeseen : s.ReadingIsForeseen r σ) (h : s.TemplateIsAcceptable r σ) :
    ∃ d, s.edited flavor r σ = .ok d := by
  obtain ⟨template, parsed, hload, hparse⟩ := h
  rw [edited_of_parse hload (hforeseen.idIsPrintable template hload) hparse]
  cases htitled : titled? r (r.title flavor) parsed with
  | none =>
    obtain ⟨haudit, hlinks⟩ := titled?_eq_none_iff.1 htitled
    exact absurd (hforeseen.linksAreObjects template parsed hload hparse haudit) hlinks
  | some d =>
    have hextended : ∃ final, s.extended r d flavor = .ok final := exists_extended hregistry d
    obtain ⟨final, hfinal⟩ := hextended
    dsimp only
    rw [hfinal]
    exact ⟨final, rfl⟩

/-! ## Writing -/

/-- What does not break the synthesis when the document is written is foreseen. -/
theorem writingIsForeseen_of_outcome {d : Document} (hedited : s.edited flavor r σ = .ok d)
    (h : ∀ cause, s.outcome flavor r σ ≠ .error (.broken cause)) : s.WritingIsForeseen d := by
  have houtcome := outcome_of_edited hedited
  have hwidth : Document.isWidth s.indent = true := by
    by_contra hwidth
    refine h .indentTooLarge ?_
    rw [houtcome, Document.serialize_of_not_isWidth hwidth]
    rfl
  refine ⟨hwidth, ?_⟩
  by_contra hdepth
  refine h .tooDeep ?_
  rw [houtcome, Document.serialize_of_deep hwidth hdepth]
  rfl

/-- A document is written, or the report says that it cannot be, if nothing breaks. -/
theorem outcome_of_writingIsForeseen {d : Document} (hedited : s.edited flavor r σ = .ok d)
    (h : s.WritingIsForeseen d) :
    (∃ text, d.serialize (some s.indent) = .ok text ∧ s.outcome flavor r σ = .ok text) ∨
      ((∀ text, d.serialize (some s.indent) ≠ .ok text) ∧
        s.outcome flavor r σ = .error (.reported (serializationReport (r.title flavor)))) := by
  rw [outcome_of_edited hedited, Document.serialize_of_depth_le h.width h.depth]
  cases (Json.obj d.members).print? (.ofIndent (some s.indent)) with
  | some text => exact .inl ⟨text, rfl, rfl⟩
  | none => exact .inr ⟨fun _ => by simp, rfl⟩

/-! ## The whole -/

/-- Where nothing is unforeseen, a synthesis ends as it should. -/
theorem endsAsDocumented_of_foreseen (hregistry : s.registry = Registry.standard)
    (hreading : s.ReadingIsForeseen r σ)
    (hwriting : ∀ d, s.edited flavor r σ = .ok d → s.WritingIsForeseen d) :
    s.EndsAsDocumented flavor r σ := by
  by_cases hacceptable : s.TemplateIsAcceptable r σ
  · have hdocument : ∃ d, s.edited flavor r σ = .ok d :=
      edited_of_templateIsAcceptable hregistry hreading hacceptable
    obtain ⟨d, hedited⟩ := hdocument
    rcases outcome_of_writingIsForeseen hedited (hwriting d hedited) with
      ⟨text, hwrite, houtcome⟩ | ⟨hunwritten, houtcome⟩
    · refine ⟨?_, ?_, ?_⟩ <;> rw [dashboard_on_fst, houtcome]
      · exact .inl ⟨text, rfl⟩
      · simp [hacceptable]
      · simp [hedited, hwrite]
    · refine ⟨?_, ?_, ?_⟩ <;> rw [dashboard_on_fst, houtcome]
      · exact .inr ⟨_, rfl, .inr rfl⟩
      · refine iff_of_false ?_ (not_not.2 hacceptable)
        rintro ⟨report, hreport, hkind, -⟩
        rw [← Failure.reported.inj (Except.error.inj hreport)] at hkind
        exact absurd hkind (by simp [serializationReport])
      · exact iff_of_true ⟨_, rfl, rfl⟩ ⟨d, hedited, hunwritten⟩
  · have hdue : ∃ report, IsTemplateReport r (r.title flavor) report ∧
        s.edited flavor r σ = .error (.reported report) :=
      edited_of_not_templateIsAcceptable hreading hacceptable
    obtain ⟨report, hreport, hedited⟩ := hdue
    refine ⟨?_, ?_, ?_⟩ <;> rw [dashboard_on_fst, outcome_of_edited_error hedited]
    · exact .inr ⟨report, rfl, .inl hreport⟩
    · exact iff_of_true ⟨report, rfl, hreport⟩ hacceptable
    · simp [hedited, hreport.kind]

/-- A synthesis that ends as it should is not broken. -/
theorem EndsAsDocumented.outcome_ne_broken (h : s.EndsAsDocumented flavor r σ) (cause : Breakdown) :
    s.outcome flavor r σ ≠ .error (.broken cause) := by
  intro hbroken
  have hends := h.outcomes
  rw [dashboard_on_fst, hbroken] at hends
  simp at hends

/-- **How a synthesis fails.**  With the standard registry, a synthesis returns a text or ends with the
report that is due, unless one of the inputs listed in `ReadingIsForeseen` and `WritingIsForeseen`
breaks it. -/
theorem endsAsDocumented_iff (identity : IdentitySource) (metric : Text) (indent : Int)
    (flavor : Flavor) (r : DashboardRequest) (σ : Session) :
    EndsAsDocumented { identity, metric, indent } flavor r σ ↔
      ReadingIsForeseen { identity, metric, indent } r σ ∧
        ∀ d, edited { identity, metric, indent } flavor r σ = .ok d →
          WritingIsForeseen { identity, metric, indent } d := by
  constructor
  · intro h
    have hedited : ∀ cause, edited { identity, metric, indent } flavor r σ ≠ .error (.broken cause) :=
      fun cause hbroken => h.outcome_ne_broken cause (outcome_of_edited_error hbroken)
    refine ⟨readingIsForeseen_of_edited hedited, fun d hedited => ?_⟩
    · exact writingIsForeseen_of_outcome hedited h.outcome_ne_broken
  · rintro ⟨hreading, hwriting⟩
    exact endsAsDocumented_of_foreseen rfl hreading hwriting

/-- A session in which the file `t` is a single byte that starts nothing in UTF-8. -/
def undecodableSession : Session := { files := ⟨[(["t"], .file ⟨#[0xFF]⟩)]⟩, home := [] }

/-- A request for a dashboard from that file. -/
def undecodableRequest : DashboardRequest :=
  { template := "t", name := "loan", endpoint := "e", build := ⟨"a", "1"⟩ }

theorem not_endsAsDocumented_undecodable :
    ¬ EndsAsDocumented { identity := .fixed ⟨7, "u"⟩, metric := "m", indent := 2 } (.decisionModel [])
      undecodableRequest undecodableSession := by
  intro h
  have hload : loadTemplate undecodableSession.files undecodableSession.home
      undecodableRequest.template = .error .undecodable := by decide +kernel
  refine h.outcome_ne_broken .undecodable (outcome_of_edited_error ?_)
  exact edited_of_load_error hload

end Synthesizer
end DashboardSynthesis
