import DashboardSynthesis.Proofs.Outcome
import DashboardSynthesis.Proofs.Synthesis.Runs

/-!
# The outcome of a synthesis

What a synthesis returns, or how it fails, depends on the session only through the files and through the
next identity.  `Synthesizer.outcome` computes it step by step, without the session, and
`dashboard_on_fst` says that it is what `Synthesizer.dashboard` returns.

Each step has its own way of failing: of the failures below those that are reported are foreseen, the
others are breakdowns.
-/

namespace DashboardSynthesis
namespace Synthesizer

/-- The failure for a template that is not read. -/
def templateFailure (r : DashboardRequest) (title : Text) : TemplateFault → Failure
  | .undecodable => .broken .undecodable
  | _ => .reported (r.templateReport "read" title)

/-- The failure for a text that is not read as a dashboard. -/
def parseFailure (r : DashboardRequest) (title : Text) : Document.Fault → Failure
  | .refused _ => .reported (r.templateReport "parse" title)
  | .tooManyDigits digits => .broken (.tooManyDigits (some digits))
  | .tooDeep => .broken .tooDeep
  | .infiniteGrid => .broken .infiniteGrid

/-- The failure for a document that is not written. -/
def writeFailure (title : Text) : Document.WriteFault → Failure
  | .tooManyDigits => .reported (serializationReport title)
  | .tooDeep => .broken .tooDeep
  | .indentTooLarge => .broken .indentTooLarge

/-- The text of a template, customized with the next identity. -/
def customized (s : Synthesizer) (r : DashboardRequest) (σ : Session) (template : Text) : Text :=
  customize (markerValue r.endpoint r.build.artifactId r.build.version
    ⟨s.identity.id σ.idsDrawn, s.identity.uid σ.uidsDrawn⟩) template

/-- Can the next id be written? -/
def idIsPrintable (s : Synthesizer) (σ : Session) : Bool :=
  (Json.int (s.identity.id σ.idsDrawn)).isPrintable

/-- The document with what a flavor adds to it. -/
def extended (s : Synthesizer) (r : DashboardRequest) (d : Document) :
    Flavor → Except RegistryDefect Document
  | .decisionModel decisions =>
    match treatAll s.registry s.metric r.endpoint r.build decisions with
    | (ts, none) => .ok ((ts.filterMap Treatment.content?).foldl Document.addPanel d)
    | (_, some defect) => .error defect
  | _ => .ok d

/-- The document with title and link that a text is read as, or how it comes that there is none. -/
def documentOutcome (r : DashboardRequest) (title text : Text) : Except Failure Document := do
  let parsed ← (Document.parse text).mapError (parseFailure r title)
  match titled? r title parsed with
  | some d => pure d
  | none => throw (.broken .linkNotAnObject)

/-- The document that a flavor adds to, or how it comes that there is none. -/
def startOutcome (s : Synthesizer) (r : DashboardRequest) (title : Text) (σ : Session) :
    Except Failure Document := do
  let template ← (loadTemplate σ.files σ.home r.template).mapError (templateFailure r title)
  if s.idIsPrintable σ then documentOutcome r title (s.customized r σ template)
  else throw (.broken (.tooManyDigits none))

/-- The document that is written, or how it comes that there is none. -/
def edited (s : Synthesizer) (flavor : Flavor) (r : DashboardRequest) (σ : Session) :
    Except Failure Document := do
  let d ← s.startOutcome r (r.title flavor) σ
  (s.extended r d flavor).mapError fun defect => .reported defect.report

/-- What a synthesis returns, or how it fails. -/
def outcome (s : Synthesizer) (flavor : Flavor) (r : DashboardRequest) (σ : Session) :
    Except Failure Text := do
  let final ← s.edited flavor r σ
  (final.serialize (some s.indent)).mapError (writeFailure (r.title flavor))

variable (s : Synthesizer) (flavor : Flavor) (r : DashboardRequest) (σ : Session)

/-! ## How far it comes -/

section

variable {s flavor r σ} {template : Text}

theorem edited_of_load_error {fault : TemplateFault}
    (hload : loadTemplate σ.files σ.home r.template = .error fault) :
    s.edited flavor r σ = .error (templateFailure r (r.title flavor) fault) := by
  rw [edited, startOutcome, hload]
  rfl

theorem edited_of_not_idIsPrintable (hload : loadTemplate σ.files σ.home r.template = .ok template)
    (hid : ¬ s.idIsPrintable σ = true) :
    s.edited flavor r σ = .error (.broken (.tooManyDigits none)) := by
  rw [edited, startOutcome, hload]
  show ((if s.idIsPrintable σ = true then _ else _ : Except Failure Document) >>= _) = _
  rw [if_neg hid]
  rfl

theorem edited_of_load (hload : loadTemplate σ.files σ.home r.template = .ok template)
    (hid : s.idIsPrintable σ = true) :
    s.edited flavor r σ =
      documentOutcome r (r.title flavor) (s.customized r σ template) >>= fun d =>
        (s.extended r d flavor).mapError fun defect => .reported defect.report := by
  rw [edited, startOutcome, hload]
  show ((if s.idIsPrintable σ = true then _ else _ : Except Failure Document) >>= _) = _
  rw [if_pos hid]

theorem edited_of_parse_error {fault : Document.Fault}
    (hload : loadTemplate σ.files σ.home r.template = .ok template)
    (hid : s.idIsPrintable σ = true)
    (hparse : Document.parse (s.customized r σ template) = .error fault) :
    s.edited flavor r σ = .error (parseFailure r (r.title flavor) fault) := by
  rw [edited_of_load hload hid, documentOutcome, hparse]
  rfl

theorem edited_of_parse {parsed : Document}
    (hload : loadTemplate σ.files σ.home r.template = .ok template)
    (hid : s.idIsPrintable σ = true)
    (hparse : Document.parse (s.customized r σ template) = .ok parsed) :
    s.edited flavor r σ =
      match titled? r (r.title flavor) parsed with
      | some d => (s.extended r d flavor).mapError fun defect => .reported defect.report
      | none => .error (.broken .linkNotAnObject) := by
  rw [edited_of_load hload hid, documentOutcome, hparse]
  show ((match titled? r (r.title flavor) parsed with
    | some d => pure d
    | none => throw (.broken .linkNotAnObject) : Except Failure Document) >>= _) = _
  cases titled? r (r.title flavor) parsed <;> rfl

/-- What a synthesis that succeeds went through. -/
theorem exists_of_outcome {text : Text} (h : s.outcome flavor r σ = .ok text) :
    ∃ template parsed d final, loadTemplate σ.files σ.home r.template = .ok template ∧
      Document.parse (s.customized r σ template) = .ok parsed ∧
      titled? r (r.title flavor) parsed = some d ∧ s.extended r d flavor = .ok final ∧
      final.serialize (some s.indent) = .ok text := by
  obtain ⟨final, hedited, hwrite⟩ := exists_of_bind_eq_ok h
  obtain ⟨d, hstart, hextended⟩ := exists_of_bind_eq_ok hedited
  obtain ⟨template, hload, hstart⟩ := exists_of_bind_eq_ok hstart
  split at hstart
  · obtain ⟨parsed, hparse, htitled⟩ := exists_of_bind_eq_ok hstart
    split at htitled
    · next d' hd =>
      obtain rfl := Except.ok.inj htitled
      exact ⟨template, parsed, d', final, eq_ok_of_mapError_eq_ok hload,
        eq_ok_of_mapError_eq_ok hparse, hd, eq_ok_of_mapError_eq_ok hextended,
        eq_ok_of_mapError_eq_ok hwrite⟩
    · exact absurd htitled throw_ne_ok
  · exact absurd hstart throw_ne_ok

theorem outcome_of_edited_error {failure : Failure} (h : s.edited flavor r σ = .error failure) :
    s.outcome flavor r σ = .error failure := by
  rw [outcome, h]
  rfl

theorem outcome_of_edited {d : Document} (h : s.edited flavor r σ = .ok d) :
    s.outcome flavor r σ =
      (d.serialize (some s.indent)).mapError (writeFailure (r.title flavor)) := by
  rw [outcome, h]
  rfl

end

/-! ## The steps -/

theorem readTemplate_on_fst (title : Text) : ((readTemplate r title).on σ).1 =
    (loadTemplate σ.files σ.home r.template).mapError (templateFailure r title) := by
  rw [readTemplate_on]
  cases loadTemplate σ.files σ.home r.template with
  | ok template => rfl
  | error fault => cases fault <;> rfl

theorem readTemplate_on_snd {title template : Text}
    (h : ((readTemplate r title).on σ).1 = .ok template) : ((readTemplate r title).on σ).2 = σ := by
  rw [readTemplate_on] at h ⊢
  split at h
  · rfl
  all_goals exact absurd h (by simp)

theorem parseTemplate_on_fst (title text : Text) : ((parseTemplate r title text).on σ).1 =
    (Document.parse text).mapError (parseFailure r title) := by
  rw [parseTemplate_on]
  cases Document.parse text with
  | ok document => rfl
  | error fault => cases fault <;> rfl

theorem draw_on_fst : (s.identity.draw.on σ).1 =
    if s.idIsPrintable σ then .ok ⟨s.identity.id σ.idsDrawn, s.identity.uid σ.uidsDrawn⟩
    else .error (.broken (.tooManyDigits none)) := by
  rw [IdentitySource.draw_on, idIsPrintable]
  split <;> rfl

theorem serialize_on_fst (title : Text) (d : Document) : ((s.serialize title d).on σ).1 =
    (d.serialize (some s.indent)).mapError (writeFailure title) := by
  rw [serialize_on]
  cases d.serialize (some s.indent) with
  | ok text => rfl
  | error fault => cases fault <;> rfl

theorem addDecisions_on_fst (title : Text) (decisions : List Decision) (d : Document) :
    ((s.addDecisions r title decisions d).on σ).1 =
      (s.extended r d (.decisionModel decisions)).mapError fun defect => .reported defect.report := by
  rw [addDecisions_on, extended]
  rcases treatAll s.registry s.metric r.endpoint r.build decisions with ⟨ts, _ | defect⟩ <;> rfl

/-! ## The whole -/

theorem start_on_fst (title : Text) : ((s.start r title).on σ).1 = s.startOutcome r title σ := by
  have hdocument : ∀ σ' text, (Run.on (do
      let document ← parseTemplate r title text
      match titled? r title document with
      | some document => pure document
      | none => Run.breakWith .linkNotAnObject) σ').1 = documentOutcome r title text := by
    intro σ' text
    rw [Run.on_bind_fst, parseTemplate_on_fst, documentOutcome]
    congr 1
    funext d
    cases titled? r title d <;> rfl
  rw [start, startOutcome, Run.on_bind_fst, ← readTemplate_on_fst]
  cases hread : ((readTemplate r title).on σ).1 with
  | error failure => rfl
  | ok template =>
    rw [readTemplate_on_snd r σ hread]
    show (Run.on (s.identity.draw >>= fun identity => do
      let document ← parseTemplate r title (customize (markerValue r.endpoint r.build.artifactId
        r.build.version identity) template)
      match titled? r title document with
      | some document => pure document
      | none => Run.breakWith .linkNotAnObject) σ).1 = if s.idIsPrintable σ then _ else _
    rw [Run.on_bind_fst, draw_on_fst]
    split
    · exact hdocument _ _
    · rfl

/-- **The outcome of a synthesis.** -/
theorem dashboard_on_fst : ((s.dashboard flavor r).on σ).1 = s.outcome flavor r σ := by
  rw [dashboard, outcome, edited, bind_assoc, ← start_on_fst]
  refine (Run.on_bind_fst _ _ σ).trans (congrArg _ (funext fun d => ?_))
  cases flavor with
  | decisionModel decisions =>
    rw [← addDecisions_on_fst s r ((s.start r (r.title (.decisionModel decisions))).on σ).2
      (r.title (.decisionModel decisions))]
    refine (Run.on_bind_fst _ _ _).trans (congrArg _ (funext fun final => ?_))
    exact serialize_on_fst s _ _ final
  | operational => exact serialize_on_fst s _ _ d
  | ruleUnit => exact serialize_on_fst s _ _ d

end Synthesizer
end DashboardSynthesis
