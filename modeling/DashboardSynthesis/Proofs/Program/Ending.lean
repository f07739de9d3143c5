import DashboardSynthesis.Program
import DashboardSynthesis.Proofs.Command.Ending

/-!
# How the program ends

Before the command is run the program has set up the log, which may have read the settings and changes
nothing that a command depends on (`IsSetUp`).  So the program ends with 0 or 1 only where the command
succeeds (`of_program_of_succeeds`), and then the dashboards have been put where they go
(`of_program_single`, `of_program_endpoint`).  With the code of a report it ends only where the command has
not touched the files (`of_program_of_reports`).
-/

namespace DashboardSynthesis

variable {σ σ' : Session} {code : Int}

/-- What setting up the log leaves of a session: all that commands depend on. -/
structure IsSetUp (σ σ' : Session) : Prop where
  platform : σ'.platform = σ.platform
  files : σ'.files = σ.files
  home : σ'.home = σ.home
  idsDrawn : σ'.idsDrawn = σ.idsDrawn
  uidsDrawn : σ'.uidsDrawn = σ.uidsDrawn
  stdout : σ'.stdout = σ.stdout
  settings : σ'.settingsOutcome = σ.settingsOutcome

theorem keepsFiles_setUpLog (verbose : Bool) : Run.KeepsFiles (setUpLog verbose) := by
  rw [setUpLog]
  split
  · exact fun _ => rfl
  · refine Run.keepsFiles_bind Run.keepsFiles_settings fun settings => ?_
    dsimp only
    split
    · exact fun _ => rfl
    · exact Run.keepsFiles_throw _

theorem isSetUp_of_setUpLog {verbose : Bool} (h : (setUpLog verbose).on σ = (.ok (), σ')) :
    IsSetUp σ σ' := by
  rw [setUpLog] at h
  split at h
  · obtain rfl := (Prod.mk.inj h).2
    exact ⟨rfl, rfl, rfl, rfl, rfl, rfl, Session.settingsOutcome_congr rfl rfl rfl⟩
  · obtain ⟨settings, σ₁, hsettings, hrest⟩ := Run.exists_of_on_bind h
    obtain ⟨hread, rfl⟩ := Run.of_settings hsettings
    dsimp only at hrest
    split at hrest
    · obtain rfl := (Prod.mk.inj hrest).2
      exact ⟨rfl, rfl, rfl, rfl, rfl, rfl, (Session.settingsOutcome_of_settings? rfl).trans hread.symm⟩
    · exact absurd (Prod.mk.inj hrest).1 (by simp)

theorem IsSetUp.decisions (h : IsSetUp σ σ') (command : Command) :
    command.decisions σ' = command.decisions σ := by
  rw [Command.decisions, Command.decisions, h.platform, h.files, h.home]

theorem IsSetUp.single? (h : IsSetUp σ σ') (command : Command) :
    command.single? σ' = command.single? σ := by
  cases command with
  | decision file o => rw [Command.single?, Command.single?, h.decisions]
  | _ => rfl

theorem IsSetUp.drawn (h : IsSetUp σ σ') : IsSetUp σ.drawn σ'.drawn :=
  ⟨h.platform, h.files, h.home, congrArg (· + 1) h.idsDrawn, congrArg (· + 1) h.uidsDrawn, h.stdout,
    h.settings⟩

theorem IsSetUp.withLog (h : IsSetUp σ σ') (l : List LogEvent) : IsSetUp σ (σ'.withLog l) :=
  ⟨h.platform, h.files, h.home, h.idsDrawn, h.uidsDrawn, h.stdout, h.settings⟩

/-- What is made once the log is set up would have been made before. -/
theorem IsSetUp.isMade (h : IsSetUp σ σ') {identity : IdentitySource} {flavor : Flavor} {build : Build}
    {options : DashboardOptions} {settings : Settings} {text : Text} {bytes : ByteArray}
    (hmade : IsMade identity flavor build options σ' settings text bytes) :
    IsMade identity flavor build options σ settings text bytes :=
  hmade.congr (h.settings ▸ hmade.settingsAre) h.files.symm h.home.symm h.idsDrawn.symm
    h.uidsDrawn.symm

variable {identity : IdentitySource} {arguments : List Text} {verbose : Bool} {command : Command}

theorem program_of_read (hread : Invocation.read arguments = .ok ⟨verbose, some command⟩) :
    program identity arguments =
      setUpLog verbose >>= fun _ => command.run identity >>= fun code => pure (.exit code) := by
  rw [program, hread]

theorem keepsFiles_program (hread : Invocation.read arguments = .ok ⟨verbose, some command⟩)
    (h : Run.KeepsFiles (command.body identity)) : Run.KeepsFiles (program identity arguments) := by
  rw [program_of_read hread]
  exact Run.keepsFiles_bind (keepsFiles_setUpLog verbose) fun _ =>
    Run.keepsFiles_bind (Command.keepsFiles_run h) fun _ => Run.keepsFiles_pure _

/-- How the program comes to an exit code. -/
theorem of_program (hread : Invocation.read arguments = .ok ⟨verbose, some command⟩)
    (h : (program identity arguments).on σ = (.ok (.exit code), σ')) :
    ∃ σ₀, IsSetUp σ σ₀ ∧ (command.run identity).on σ₀ = (.ok code, σ') := by
  rw [program_of_read hread] at h
  obtain ⟨⟨⟩, σ₀, hsetUp, hrest⟩ := Run.exists_of_on_bind h
  obtain ⟨code', σ₁, hrun, hpure⟩ := Run.exists_of_on_bind hrest
  obtain ⟨hcode, rfl⟩ := Run.eq_of_on_pure hpure
  obtain rfl := Ending.exit.inj hcode
  exact ⟨σ₀, isSetUp_of_setUpLog hsetUp, hrun⟩

/-- The program ends with 0 or 1 only where the command succeeds. -/
theorem of_program_of_succeeds (hread : Invocation.read arguments = .ok ⟨verbose, some command⟩)
    (hcode : code = 0 ∨ code = 1)
    (h : (program identity arguments).on σ = (.ok (.exit code), σ')) :
    ∃ σ₀, IsSetUp σ σ₀ ∧ (command.body identity).on σ₀ = (.ok code, σ') := by
  obtain ⟨σ₀, hsetUp, hrun⟩ := of_program hread h
  refine ⟨σ₀, hsetUp, ?_⟩
  obtain hbody | ⟨failure, σ₁, -, rfl, -⟩ := Command.of_run hrun
  · exact hbody
  · have hne := failure.exitCode_ne
    rcases hcode with hcode | hcode
    · exact absurd hcode hne.1
    · exact absurd hcode hne.2

/-- A command that makes one dashboard, and is no dry run, has put it where it goes. -/
theorem of_program_single {flavor : Flavor} {options : DashboardOptions}
    (hread : Invocation.read arguments = .ok ⟨verbose, some command⟩)
    (hsingle : command.single? σ = some (flavor, options)) (hdry : ¬ options.dryRun = true)
    (hcode : code = 0 ∨ code = 1)
    (h : (program identity arguments).on σ = (.ok (.exit code), σ')) :
    ∃ build settings text bytes, options.build.build = .ok build ∧
      IsMade identity flavor build options σ settings text bytes ∧
      σ.files.put σ.home (options.target flavor settings) bytes = .ok σ'.files := by
  obtain ⟨σ₀, hsetUp, hbody⟩ := of_program_of_succeeds hread hcode h
  rw [← hsetUp.single?] at hsingle
  obtain ⟨build, l, hbuild, -, hmake⟩ := Command.of_body_single hsingle hbody
  obtain ⟨settings, text, bytes, hmade, -, hput⟩ := Command.of_makeDashboard_of_not_dryRun hdry hmake
  rw [Session.withLog_files, Session.withLog_home, hsetUp.files, hsetUp.home] at hput
  exact ⟨build, settings, text, bytes, hbuild, (hsetUp.withLog l).isMade hmade, hput⟩

/-- The command that makes both dashboards of an endpoint has put both of them where they go. -/
theorem of_program_endpoint {options : EndpointOptions}
    (hread : Invocation.read arguments = .ok ⟨verbose, some (.endpoint options)⟩)
    (hcode : code = 0 ∨ code = 1)
    (h : (program identity arguments).on σ = (.ok (.exit code), σ')) :
    ∃ build decisions settings text₁ bytes₁ text₂ bytes₂ files,
      options.build.build = .ok build ∧
      options.decisionsOutcome σ.platform σ.files σ.home = .ok decisions ∧
      IsMade identity .operational build (options.dashboard (options.getsAuditLink settings)) σ
        settings text₁ bytes₁ ∧
      IsMade identity (.ofDecisions decisions) build
        (options.dashboard (options.getsAuditLink settings)) σ.drawn settings text₂ bytes₂ ∧
      σ.files.put σ.home (options.target .operational settings) bytes₁ = .ok files ∧
      files.put σ.home (options.target (.ofDecisions decisions) settings) bytes₂ = .ok σ'.files := by
  obtain ⟨σ₀, hsetUp, hbody⟩ := of_program_of_succeeds hread hcode h
  obtain ⟨build, decisions, settings, text₁, bytes₁, text₂, bytes₂, files, hbuild, hdecisions, h₁, h₂,
    hput₁, hput₂, -⟩ := Command.of_makeEndpointDashboards hbody
  rw [hsetUp.platform] at hdecisions
  rw [hsetUp.files, hsetUp.home] at hdecisions hput₁
  rw [hsetUp.home] at hput₂
  exact ⟨build, decisions, settings, text₁, bytes₁, text₂, bytes₂, files, hbuild, hdecisions,
    hsetUp.isMade h₁, hsetUp.drawn.isMade h₂, hput₁, hput₂⟩

/-- The program ends with the code of a report only where the command has not touched the files. -/
theorem of_program_of_reports (hread : Invocation.read arguments = .ok ⟨verbose, some command⟩)
    (hcode : code ∈ [(10 : Int), 12, 13])
    (h : (program identity arguments).on σ = (.ok (.exit code), σ')) : σ'.files = σ.files := by
  obtain ⟨σ₀, hsetUp, hrun⟩ := of_program hread h
  rw [← hsetUp.files]
  obtain hbody | ⟨failure, σ₁, hfails, rfl, hfiles⟩ := Command.of_run hrun
  · -- a command that succeeds has another code
    have hbody := Command.of_body hbody
    split at hbody <;> rw [hbody] at hcode <;> exact absurd hcode (by decide)
  · obtain ⟨r, rfl⟩ := Failure.exists_report hcode
    exact hfiles.trans (Command.reportsFirst_body _ _ _ hfails)

end DashboardSynthesis
