import DashboardSynthesis.Proofs.Command.Endpoint

/-!
# How commands end

A command that is guarded ends with an exit code of its own if it succeeds, and with the code for its
failure otherwise (`Guard.of_run`); what is done about a failure does not touch the files.  A command of
its own accord ends with 0 if all decisions it was given are supported and with 1 if not
(`of_body`), so the codes of failures can be told from those.
-/

namespace DashboardSynthesis

variable {σ σ' : Session} {code : Int}

/-- The exit code for a failure. -/
def Failure.exitCode : Failure → Int
  | .reported r => r.kind.exitCode
  | .interrupted => interruptedExitCode
  | .broken _ => LogEvent.unknownExitCode

/-! ## Guards -/

namespace Guard

/-- A step that is done on a condition, and what comes behind it. -/
theorem keepsFiles_ite {α : Type} {c : Prop} [Decidable c] {x : Run Unit} {f : Unit → Run α}
    (hx : Run.KeepsFiles x) (hf : Run.KeepsFiles (f ())) :
    Run.KeepsFiles (if c then x >>= f else f ()) := by
  split
  · exact Run.keepsFiles_bind hx fun _ => hf
  · exact hf

theorem keepsFiles_logReport (r : Report) : Run.KeepsFiles (Run.logReport r) := by
  rw [Run.logReport.eq_def]
  split
  · exact Run.keepsFiles_throw _
  · refine Run.keepsFiles_bind Run.keepsFiles_get fun s => ?_
    cases s.platform.logFault r.details with
    | none => exact Run.keepsFiles_log _
    | some cause => exact Run.keepsFiles_throw _

theorem keepsFiles_showTrace : Run.KeepsFiles Run.showTrace := fun _ => rfl

theorem keepsFiles_complainOf (r : Report) : Run.KeepsFiles (Run.complainOf r) := by
  have hcomplain : Run.KeepsFiles (Run.complain r.formatted) := by
    refine Run.keepsFiles_bind Run.keepsFiles_get fun s => ?_
    cases s.platform.errorConsole.text (errorLine r.formatted) with
    | ok t => exact Run.keepsFiles_printError _
    | error cause => exact Run.keepsFiles_throw _
  rw [Run.complainOf]
  split
  · exact Run.keepsFiles_throw _
  · refine Run.keepsFiles_bind Run.keepsFiles_get fun s => ?_
    split
    · exact Run.keepsFiles_throw _
    · exact hcomplain

theorem keepsFiles_answer (g : Guard) (failure : Failure) : Run.KeepsFiles (g.answer failure) := by
  cases failure with
  | reported r =>
    refine keepsFiles_ite (keepsFiles_logReport r) ?_
    refine Run.keepsFiles_bind (keepsFiles_complainOf r) fun _ => ?_
    exact keepsFiles_ite keepsFiles_showTrace (Run.keepsFiles_pure _)
  | interrupted => exact keepsFiles_ite (Run.keepsFiles_log _) (Run.keepsFiles_pure _)
  | broken cause =>
    refine keepsFiles_ite (Run.keepsFiles_log _) ?_
    exact keepsFiles_ite keepsFiles_showTrace (Run.keepsFiles_pure _)

/-- A command that gives nothing but a certain value. -/
def Gives {α : Type} (a : α) (x : Run α) : Prop := ∀ σ b σ', x.on σ = (.ok b, σ') → b = a

theorem gives_pure {α : Type} (a : α) : Gives a (pure a) := fun _ _ _ h => (Run.eq_of_on_pure h).1.symm

theorem gives_bind {α β : Type} {b : β} {x : Run α} {f : α → Run β} (hf : ∀ a, Gives b (f a)) :
    Gives b (x >>= f) := by
  intro σ c σ' h
  obtain ⟨a, σ₁, -, hrest⟩ := Run.exists_of_on_bind h
  exact hf a σ₁ c σ' hrest

theorem gives_ite {α : Type} {a : α} {c : Prop} [Decidable c] {x y : Run α} (hx : Gives a x)
    (hy : Gives a y) : Gives a (if c then x else y) := by
  split
  · exact hx
  · exact hy

/-- What is answered is the exit code for the failure. -/
theorem gives_answer (g : Guard) (failure : Failure) : Gives failure.exitCode (g.answer failure) := by
  cases failure with
  | reported r =>
    have hrest : Gives r.kind.exitCode (do
        Run.complainOf r
        if r.kind.showsTrace || g.showsTrace then Run.showTrace
        pure r.kind.exitCode) :=
      gives_bind fun _ => gives_ite (gives_bind fun _ => gives_pure _) (gives_pure _)
    exact gives_ite (gives_bind fun _ => hrest) hrest
  | interrupted => exact gives_ite (gives_bind fun _ => gives_pure _) (gives_pure _)
  | broken cause =>
    have hrest : Gives LogEvent.unknownExitCode (do
        if g.showsTrace then Run.showTrace
        pure LogEvent.unknownExitCode) :=
      gives_ite (gives_bind fun _ => gives_pure _) (gives_pure _)
    exact gives_ite (gives_bind fun _ => hrest) hrest

variable {g : Guard} {command : Run Int}

theorem keepsFiles_run (h : Run.KeepsFiles command) : Run.KeepsFiles (g.run command) := by
  intro σ
  have hσ := h σ
  rw [run, Run.on_tryCatch]
  generalize command.on σ = ended at hσ
  obtain ⟨failure | code, σ'⟩ := ended
  · exact (keepsFiles_answer g failure σ').trans hσ
  · exact hσ

/-- A command that succeeds is left alone by its guard. -/
theorem on_run_of_ok (h : command.on σ = (.ok code, σ')) : (g.run command).on σ = (.ok code, σ') := by
  rw [run, Run.on_tryCatch, h]

/-- How a guarded command comes to an exit code. -/
theorem of_run (h : (g.run command).on σ = (.ok code, σ')) :
    command.on σ = (.ok code, σ') ∨
      ∃ failure σ₁, command.on σ = (.error failure, σ₁) ∧ code = failure.exitCode ∧
        σ'.files = σ₁.files := by
  rw [run, Run.on_tryCatch] at h
  rcases hended : command.on σ with ⟨failure | code', σ₁⟩
  · rw [hended] at h
    exact .inr ⟨failure, σ₁, rfl, gives_answer g failure _ _ _ h, (keepsFiles_answer g failure).of_eq h⟩
  · rw [hended] at h
    exact .inl h

end Guard

theorem ReportKind.exitCode_ne (kind : ReportKind) : kind.exitCode ≠ 0 ∧ kind.exitCode ≠ 1 := by
  cases kind <;> decide

/-- Failures have exit codes of their own. -/
theorem Failure.exitCode_ne (failure : Failure) : failure.exitCode ≠ 0 ∧ failure.exitCode ≠ 1 := by
  cases failure with
  | reported r => exact r.kind.exitCode_ne
  | interrupted => decide
  | broken cause => simp [exitCode, LogEvent.unknownExitCode]

/-- The codes of failures that are reported are not those of breakdowns. -/
theorem Failure.exists_report {failure : Failure} (hcode : failure.exitCode ∈ [(10 : Int), 12, 13]) :
    ∃ r, failure = .reported r := by
  cases failure with
  | reported r => exact ⟨r, rfl⟩
  | interrupted => exact absurd hcode (by decide)
  | broken cause => exact absurd hcode (by simp [exitCode, LogEvent.unknownExitCode])

/-! ## Commands -/

namespace Command

/-- The file of the decisions that the command is given. -/
def decisionFile? : Command → Option Text
  | .decision file _ => some file
  | .endpoint options => given? options.decisions
  | _ => none

/-- The decisions that the command is given. -/
def decisions (command : Command) (σ : Session) : List Decision :=
  match command.decisionFile? with
  | none => []
  | some file => (Decision.loadOutcome σ.platform σ.files σ.home file).toOption.getD []

/-- The flavor of the dashboard and what it is made with, if the command makes one. -/
def single? (command : Command) (σ : Session) : Option (Flavor × DashboardOptions) :=
  match command with
  | .operational options => some (.operational, options)
  | .decision _ options => some (.decisionModel (command.decisions σ), options)
  | .rules options => some (.ruleUnit, options)
  | _ => none

/-- Is the dashboard printed and not written? -/
def isDryRun : Command → Bool
  | .operational options | .decision _ options | .rules options => options.dryRun
  | _ => false

variable {identity : IdentitySource} {command : Command} {flavor : Flavor} {options : DashboardOptions}

theorem decisions_of_loadOutcome {file : Text} {ds : List Decision}
    (hfile : command.decisionFile? = some file)
    (hload : Decision.loadOutcome σ.platform σ.files σ.home file = .ok ds) : command.decisions σ = ds := by
  rw [decisions, hfile]
  dsimp only
  rw [hload]
  rfl

/-- A command that makes one dashboard. -/
theorem of_body_single (hsingle : command.single? σ = some (flavor, options))
    (h : (command.body identity).on σ = (.ok code, σ')) :
    ∃ build l, options.build.build = .ok build ∧ flavor.decisions = command.decisions σ ∧
      (makeDashboard identity flavor build options).on (σ.withLog l) = (.ok code, σ') := by
  cases command with
  | operational o | rules o =>
    obtain ⟨rfl, rfl⟩ := Prod.mk.inj (Option.some_inj.1 hsingle)
    obtain ⟨build, σ₁, hreport, hrest⟩ := Run.exists_of_on_bind h
    obtain ⟨hbuild, rfl⟩ := Run.of_orReport hreport
    exact ⟨build, σ.log, hbuild, rfl, hrest⟩
  | decision file o =>
    obtain ⟨rfl, rfl⟩ := Prod.mk.inj (Option.some_inj.1 hsingle)
    obtain ⟨build, σ₁, hreport, hrest⟩ := Run.exists_of_on_bind h
    obtain ⟨hbuild, rfl⟩ := Run.of_orReport hreport
    obtain ⟨ds, σ₂, hload, hrest⟩ := Run.exists_of_on_bind hrest
    obtain ⟨houtcome, l, rfl⟩ := Decision.of_load hload
    have hds : (Command.decision file o).decisions σ = ds := decisions_of_loadOutcome rfl houtcome
    rw [← hds] at hrest
    exact ⟨build, l, hbuild, rfl, hrest⟩
  | endpoint | name | listTypes => exact absurd hsingle (by simp [single?])

theorem reportsFirst_body : Run.ReportsFirst (command.body identity) := by
  cases command with
  | operational o | rules o =>
    exact Run.reportsFirst_bind (Run.keepsFiles_orReport _) fun _ => reportsFirst_makeDashboard
  | decision file o =>
    exact Run.reportsFirst_bind (Run.keepsFiles_orReport _) fun _ =>
      Run.reportsFirst_bind (Decision.logsOnly_load file).keepsFiles fun _ => reportsFirst_makeDashboard
  | endpoint o => exact reportsFirst_makeEndpointDashboards
  | name handler build =>
    exact Run.reportsFirst_bind (Run.keepsFiles_orReport _) fun _ =>
      Run.reportsFirst_bind (Run.printsOnly_print _).keepsFiles fun _ =>
        (Run.keepsFiles_pure _).reportsFirst
  | listTypes =>
    exact Run.reportsFirst_bind (Run.printsOnly_sayTable _).keepsFiles fun _ =>
      (Run.keepsFiles_pure _).reportsFirst

theorem keepsFiles_body_of_isDryRun (hdry : command.isDryRun = true) :
    Run.KeepsFiles (command.body identity) := by
  cases command with
  | operational o | rules o =>
    exact Run.keepsFiles_bind (Run.keepsFiles_orReport _) fun _ => keepsFiles_makeDashboard_of_dryRun hdry
  | decision file o =>
    exact Run.keepsFiles_bind (Run.keepsFiles_orReport _) fun _ =>
      Run.keepsFiles_bind (Decision.logsOnly_load file).keepsFiles fun _ =>
        keepsFiles_makeDashboard_of_dryRun hdry
  | endpoint | name | listTypes => exact absurd hdry (by simp [isDryRun])

/-- The code says whether decisions are skipped. -/
theorem codeOf_warningsOf (build : Build) (settings : Settings) :
    codeOf (warningsOf identity flavor build options settings) =
      if ∀ d ∈ flavor.decisions, d.isSupported Registry.standard = true then 0 else 1 := by
  have hiff := Synthesizer.skipWarnings_eq_nil_iff (s := settings.synthesizer identity)
    (r := options.request flavor settings build) rfl flavor.decisions
  rw [codeOf, warningsOf]
  simp only [List.isEmpty_iff, hiff]

theorem code_of_makeDashboard {build : Build}
    (h : (makeDashboard identity flavor build options).on σ = (.ok code, σ')) :
    code = if ∀ d ∈ flavor.decisions, d.isSupported Registry.standard = true then 0 else 1 := by
  obtain ⟨settings, _, _, _, notices, σ₁, -, hput, htell⟩ := of_makeDashboard h
  obtain ⟨hcode, -⟩ := tell_on_iff.1 htell
  rw [hcode, (warnings_and_platform_of_put rfl hput).1]
  exact codeOf_warningsOf build settings

theorem decisions_endpoint {o : EndpointOptions} {ds : Option (List Decision)}
    (h : o.decisionsOutcome σ.platform σ.files σ.home = .ok ds) :
    (Command.endpoint o).decisions σ = (Flavor.ofDecisions ds).decisions := by
  rw [EndpointOptions.decisionsOutcome] at h
  cases hgiven : given? o.decisions with
  | none =>
    rw [hgiven] at h
    rw [← Except.ok.inj h, decisions, decisionFile?, hgiven]
    rfl
  | some file =>
    rw [hgiven] at h
    obtain ⟨loaded, hload, rfl⟩ := exists_of_map_eq_ok h
    exact decisions_of_loadOutcome hgiven hload

/-- **The exit code of a command that succeeds.**  It says whether all decisions are supported. -/
theorem of_body (h : (command.body identity).on σ = (.ok code, σ')) :
    code = if ∀ d ∈ command.decisions σ, d.isSupported Registry.standard = true then 0 else 1 := by
  cases hsingle : command.single? σ with
  | some made =>
    obtain ⟨build, l, -, hdecisions, hmake⟩ := of_body_single hsingle h
    rw [← hdecisions]
    exact code_of_makeDashboard hmake
  | none =>
    cases command with
    | endpoint o =>
      obtain ⟨_, ds, _, _, _, _, _, _, -, hds, -, -, -, -, hcode⟩ := of_makeEndpointDashboards h
      rw [hcode, codeOf_warningsOf, decisions_endpoint hds]
    | name handler build =>
      obtain ⟨_, σ₁, -, hrest⟩ := Run.exists_of_on_bind h
      obtain ⟨_, σ₂, -, hpure⟩ := Run.exists_of_on_bind hrest
      rw [← (Run.eq_of_on_pure hpure).1, if_pos]
      exact fun d hd => absurd hd (by simp [decisions, decisionFile?])
    | listTypes =>
      obtain ⟨_, σ₁, -, hpure⟩ := Run.exists_of_on_bind h
      rw [← (Run.eq_of_on_pure hpure).1, if_pos]
      exact fun d hd => absurd hd (by simp [decisions, decisionFile?])
    | operational | decision | rules => exact absurd hsingle (by simp [single?])

variable {σ σ' : Session}

/-- How a command comes to an exit code, with a guard or without one. -/
theorem of_run (h : (command.run identity).on σ = (.ok code, σ')) :
    (command.body identity).on σ = (.ok code, σ') ∨
      ∃ failure σ₁, (command.body identity).on σ = (.error failure, σ₁) ∧ code = failure.exitCode ∧
        σ'.files = σ₁.files := by
  cases command with
  | listTypes => exact .inl h
  | _ => exact Guard.of_run h

/-- A command that keeps the files keeps them if it is run. -/
theorem keepsFiles_run (h : Run.KeepsFiles (command.body identity)) :
    Run.KeepsFiles (command.run identity) := by
  cases command with
  | listTypes => exact h
  | _ => exact Guard.keepsFiles_run h

end Command

end DashboardSynthesis
