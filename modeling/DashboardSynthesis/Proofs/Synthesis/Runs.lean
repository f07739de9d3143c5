import DashboardSynthesis.Synthesizer

/-!
# Running the steps of a synthesis

`Run.on` is what a command does in a session: its outcome, and the session afterwards.  For each step of
a synthesis there is one equation here that says what it does; what is built from the steps is reasoned
about through these equations alone.

A session that has logged an event differs from what it was in its log only, and only if the event is
not below the threshold, which is why `Session.logged` has a lemma for each field that later steps read.
-/

namespace DashboardSynthesis

namespace Session

/-- The session once an event has been logged. -/
def logged (σ : Session) (event : LogEvent) : Session :=
  if event.level.rank < σ.threshold then σ else { σ with log := σ.log ++ [event] }

@[simp] theorem warnings_logged (σ : Session) (event : LogEvent) :
    (σ.logged event).warnings = σ.warnings := by
  rw [logged]
  split <;> rfl

/-- The session once it has been logged what becomes of decisions, and warned of those that are
skipped. -/
def treated (σ : Session) : List Treatment → Session
  | [] => σ
  | t :: ts =>
    treated { σ.logged t.event with
      warnings := (σ.logged t.event).warnings ++ t.warning?.toList } ts

@[simp] theorem warnings_treated (σ : Session) (ts : List Treatment) :
    (σ.treated ts).warnings = σ.warnings ++ ts.filterMap Treatment.warning? := by
  induction ts generalizing σ with
  | nil => simp [treated]
  | cons t ts ih =>
    rw [treated, ih, warnings_logged, List.append_assoc]
    cases h : t.warning? <;> simp [h]

end Session

namespace Run

variable {α β : Type}

/-- The outcome of a command in a session, and the session afterwards. -/
def on (x : Run α) (σ : Session) : Except Failure α × Session := x.run σ

theorem on_bind (x : Run α) (f : α → Run β) (σ : Session) :
    (x >>= f).on σ =
      match x.on σ with
      | (.ok a, σ') => (f a).on σ'
      | (.error failure, σ') => (.error failure, σ') := by
  have hrun : (x >>= f).on σ = ((x.run >>= ExceptT.bindCont f : StateM Session (Except Failure β)) σ :
      Except Failure β × Session) := rfl
  have hbind : ((x.run >>= ExceptT.bindCont f : StateM Session (Except Failure β)) σ :
      Except Failure β × Session) = ExceptT.bindCont f (x.on σ).1 (x.on σ).2 := rfl
  rw [hrun, hbind]
  rcases x.on σ with ⟨_ | a, σ'⟩ <;> rfl

theorem on_log (event : LogEvent) (σ : Session) : (log event).on σ = (.ok (), σ.logged event) := rfl

theorem on_bind_ok {x : Run α} {f : α → Run β} {σ σ' : Session} {a : α} (h : x.on σ = (.ok a, σ')) :
    (x >>= f).on σ = (f a).on σ' := by
  rw [on_bind, h]

theorem on_bind_error {x : Run α} {f : α → Run β} {σ σ' : Session} {failure : Failure}
    (h : x.on σ = (.error failure, σ')) : (x >>= f).on σ = (.error failure, σ') := by
  rw [on_bind, h]

theorem on_bind_fst (x : Run α) (f : α → Run β) (σ : Session) :
    ((x >>= f).on σ).1 = (x.on σ).1 >>= fun a => ((f a).on (x.on σ).2).1 := by
  rw [on_bind]
  rcases x.on σ with ⟨_ | a, σ'⟩ <;> rfl

/-! ### Commands without warnings -/

/-- Whatever its outcome, the command gives no warnings. -/
def KeepsWarnings (x : Run α) : Prop := ∀ σ, (x.on σ).2.warnings = σ.warnings

theorem keepsWarnings_bind {x : Run α} {f : α → Run β} (hx : KeepsWarnings x)
    (hf : ∀ a, KeepsWarnings (f a)) : KeepsWarnings (x >>= f) := by
  intro σ
  rw [← hx σ, on_bind]
  rcases x.on σ with ⟨_ | a, σ'⟩
  · rfl
  · exact hf a σ'

end Run

/-! ## Templates and identities -/

theorem IdentitySource.draw_on (source : IdentitySource) (σ : Session) :
    source.draw.on σ =
      if (Json.int (source.id σ.idsDrawn)).isPrintable then
        (.ok ⟨source.id σ.idsDrawn, source.uid σ.uidsDrawn⟩,
          { σ with idsDrawn := σ.idsDrawn + 1, uidsDrawn := σ.uidsDrawn + 1 })
      else (.error (.broken (.tooManyDigits none)), { σ with idsDrawn := σ.idsDrawn + 1 }) := by
  have h : source.draw.on σ =
      (if (Json.int (source.id σ.idsDrawn)).isPrintable then do
        set { σ with idsDrawn := σ.idsDrawn + 1, uidsDrawn := σ.uidsDrawn + 1 }
        pure ⟨source.id σ.idsDrawn, source.uid σ.uidsDrawn⟩
      else Run.breakWith (.tooManyDigits none) : Run Identity).on
        { σ with idsDrawn := σ.idsDrawn + 1 } := rfl
  rw [h]
  split <;> rfl

namespace Synthesizer

variable (s : Synthesizer) (r : DashboardRequest) (title : Text) (σ : Session)

theorem readTemplate_on :
    (readTemplate r title).on σ =
      match loadTemplate σ.files σ.home r.template with
      | .ok text => (.ok text, σ)
      | .error .undecodable => (.error (.broken .undecodable), σ)
      | .error fault => (.error (.reported (r.templateReport "read" title)),
          σ.logged (.templateUnreadable title r.template fault.message)) := by
  have h : (readTemplate r title).on σ =
      (match loadTemplate σ.files σ.home r.template with
      | .ok text => pure text
      | .error .undecodable => Run.breakWith .undecodable
      | .error fault => do
        Run.log (.templateUnreadable title r.template fault.message)
        Run.report (r.templateReport "read" title) : Run Text).on σ := rfl
  rw [h]
  split <;> rfl

theorem parseTemplate_on (text : Text) :
    (parseTemplate r title text).on σ =
      match Document.parse text with
      | .ok document => (.ok document, σ)
      | .error (.refused why) => (.error (.reported (r.templateReport "parse" title)),
          σ.logged (.templateUnparseable title r.template why.message))
      | .error (.tooManyDigits digits) => (.error (.broken (.tooManyDigits (some digits))), σ)
      | .error .tooDeep => (.error (.broken .tooDeep), σ)
      | .error .infiniteGrid => (.error (.broken .infiniteGrid), σ) := by
  unfold parseTemplate
  cases Document.parse text with
  | ok document => rfl
  | error fault => cases fault <;> rfl

theorem serialize_on (document : Document) :
    (s.serialize title document).on σ =
      match document.serialize (some s.indent) with
      | .ok text => (.ok text, σ.logged (.dashboardSynthesized title document.panels.length))
      | .error .tooManyDigits => (.error (.reported (serializationReport title)),
          σ.logged (.serializationFailed title Document.unprintableMessage))
      | .error .tooDeep => (.error (.broken .tooDeep), σ)
      | .error .indentTooLarge => (.error (.broken .indentTooLarge), σ) := by
  unfold serialize
  cases document.serialize (some s.indent) with
  | ok text => rfl
  | error fault => cases fault <;> rfl

/-! ## Decisions -/

theorem treatments_on (ts : List Treatment) :
    (ts.forM fun t => do
      Run.log t.event
      t.warning?.forM Run.warn : Run Unit).on σ = (.ok (), σ.treated ts) := by
  induction ts generalizing σ with
  | nil => rfl
  | cons t ts ih =>
    rw [Session.treated, ← ih]
    have hfirst : (do
        Run.log t.event
        t.warning?.forM Run.warn : Run Unit).on σ =
          (.ok (), { σ.logged t.event with
            warnings := (σ.logged t.event).warnings ++ t.warning?.toList }) := by
      rw [Run.on_bind_ok (Run.on_log t.event σ)]
      cases t.warning? with
      | none =>
        rw [Option.toList_none, List.append_nil]
        rfl
      | some message => rfl
    exact Run.on_bind_ok hfirst

theorem addDecisions_on (decisions : List Decision) (document : Document) :
    (s.addDecisions r title decisions document).on σ =
      match treatAll s.registry s.metric r.endpoint r.build decisions with
      | (ts, some defect) => (.error (.reported defect.report), σ.treated ts)
      | (ts, none) => (.ok ((ts.filterMap Treatment.content?).foldl Document.addPanel document),
          (σ.treated ts).logged (.decisionPanelsAdded title (ts.filterMap Treatment.content?).length
            (ts.filterMap Treatment.warning?).length)) := by
  rw [addDecisions]
  rcases treatAll s.registry s.metric r.endpoint r.build decisions with ⟨ts, _ | defect⟩
  · exact Run.on_bind_ok (treatments_on σ ts)
  · exact Run.on_bind_ok (treatments_on σ ts)

/-! ## Warnings -/

theorem keepsWarnings_draw (source : IdentitySource) : Run.KeepsWarnings source.draw := by
  intro σ
  rw [IdentitySource.draw_on]
  split <;> rfl

theorem keepsWarnings_start : Run.KeepsWarnings (s.start r title) := by
  refine Run.keepsWarnings_bind (fun σ => ?_) fun template =>
    Run.keepsWarnings_bind (keepsWarnings_draw s.identity) fun identity =>
      Run.keepsWarnings_bind (fun σ => ?_) fun document => ?_
  · rw [readTemplate_on]
    split
    · rfl
    · rfl
    · exact Session.warnings_logged σ _
  · rw [parseTemplate_on]
    split
    case h_2 => exact Session.warnings_logged σ _
    all_goals rfl
  · split <;> exact fun _ => rfl

theorem warnings_addDecisions (decisions : List Decision) (document : Document) :
    ((s.addDecisions r title decisions document).on σ).2.warnings = σ.warnings ++
      (treatAll s.registry s.metric r.endpoint r.build decisions).1.filterMap Treatment.warning? := by
  rw [addDecisions_on]
  rcases treatAll s.registry s.metric r.endpoint r.build decisions with ⟨ts, _ | defect⟩ <;> simp

theorem keepsWarnings_serialize (document : Document) :
    Run.KeepsWarnings (s.serialize title document) := by
  intro σ
  rw [serialize_on]
  split
  case h_1 => exact Session.warnings_logged σ _
  case h_2 => exact Session.warnings_logged σ _
  all_goals rfl

/-- **Warnings.**  Whatever comes of a synthesis, it gives the warnings about its decisions, behind those that
were there, exactly if it gets as far as its decisions. -/
theorem warnings_dashboard (decisions : List Decision) :
    ((s.dashboard (.decisionModel decisions) r).on σ).2.warnings = σ.warnings ++
      if ((s.start r (r.title (.decisionModel decisions))).on σ).1.isOk then
        (treatAll s.registry s.metric r.endpoint r.build decisions).1.filterMap Treatment.warning?
      else [] := by
  have hdashboard : s.dashboard (.decisionModel decisions) r =
      s.start r (r.title (.decisionModel decisions)) >>= fun d =>
        s.addDecisions r (r.title (.decisionModel decisions)) decisions d >>=
          s.serialize (r.title (.decisionModel decisions)) := rfl
  have hstart := keepsWarnings_start s r (r.title (.decisionModel decisions)) σ
  rw [hdashboard, Run.on_bind]
  generalize (s.start r (r.title (.decisionModel decisions))).on σ = started at hstart ⊢
  obtain ⟨_ | d, σ₁⟩ := started
  · exact hstart.trans (List.append_nil _).symm
  · dsimp only at hstart ⊢
    have hadd := warnings_addDecisions s r (r.title (.decisionModel decisions)) σ₁ decisions d
    rw [hstart] at hadd
    rw [Run.on_bind]
    generalize (s.addDecisions r (r.title (.decisionModel decisions)) decisions d).on σ₁ = added at hadd ⊢
    obtain ⟨_ | final, σ₂⟩ := added
    · exact hadd
    · exact (keepsWarnings_serialize s _ final σ₂).trans hadd

theorem warnings_dashboard_of_ok (decisions : List Decision) {text : Text}
    (h : ((s.dashboard (.decisionModel decisions) r).on σ).1 = .ok text) :
    ((s.dashboard (.decisionModel decisions) r).on σ).2.warnings = σ.warnings ++
      (treatAll s.registry s.metric r.endpoint r.build decisions).1.filterMap Treatment.warning? := by
  have hstart : ((s.start r (r.title (.decisionModel decisions))).on σ).1.isOk = true := by
    rw [dashboard, Run.on_bind] at h
    rcases hon : (s.start r (r.title (.decisionModel decisions))).on σ with ⟨_ | d, σ₁⟩
    · rw [hon] at h
      exact absurd h (by simp)
    · rfl
  rw [warnings_dashboard, if_pos hstart]

end Synthesizer

end DashboardSynthesis
