import DashboardSynthesis.Proofs.Program.Ending

/-!
# Exit codes and files

The exit code of the program tells what has happened to the files.  A code of a report (10, 12 or 13)
means that they are as they were, since a command reports only before it writes; so does a dry run,
however it ends.  After 0 and 1 the dashboard that was asked for is under its path, and nothing else has
changed.  And 1 means that decisions were skipped, 0 that none was (`endingIsTruthful`).
-/

namespace DashboardSynthesis

/-- The text of the dashboard that a command is asked to make. -/
def DashboardOptions.text (options : DashboardOptions) (identity : IdentitySource) (flavor : Flavor)
    (σ : Session) : Except Failure Text := do
  let build ← options.build.build.mapError .reported
  let settings ← σ.settingsOutcome
  (settings.synthesizer identity).outcome flavor (options.request flavor settings build) σ

/-- The dashboard is found under its path, as the bytes of its text, and nothing else has changed but that
there may be new directories. -/
def DashboardIsPut (identity : IdentitySource) (flavor : Flavor) (options : DashboardOptions)
    (σ σ' : Session) : Prop :=
  ∃ settings text bytes place, σ.settingsOutcome = .ok settings ∧
    options.text identity flavor σ = .ok text ∧ text.encode? = some bytes ∧
    σ'.files.resolve σ.home (options.target flavor settings) = .ok place ∧
    FileTree.FileIsPut σ.files σ'.files place bytes

/-- The way in which a command ends tells what it has done. -/
structure EndingIsTruthful (identity : IdentitySource) (command : Command) (σ : Session)
    (ending : Except Failure Ending) (σ' : Session) : Prop where
  /-- A failure that is reported has changed nothing. -/
  reported : ∀ code ∈ [(10 : Int), 12, 13], ending = .ok (.exit code) → σ'.files = σ.files
  /-- A dry run has changed nothing, however it ends. -/
  dryRun : command.isDryRun = true → σ'.files = σ.files
  /-- A run that succeeds has written the dashboard, and nothing else. -/
  written : ∀ flavor options, command.single? σ = some (flavor, options) →
    ¬ options.dryRun = true → ∀ code ∈ [(0 : Int), 1], ending = .ok (.exit code) →
      DashboardIsPut identity flavor options σ σ'
  /-- Decisions have been skipped. -/
  skipped : ending = .ok (.exit 1) →
    ∃ d ∈ command.decisions σ, ¬ d.isSupported Registry.standard = true
  /-- No decision has been skipped. -/
  noneSkipped : ending = .ok (.exit 0) →
    ∀ d ∈ command.decisions σ, d.isSupported Registry.standard = true

variable {σ σ' : Session} {identity : IdentitySource} {arguments : List Text} {verbose : Bool}
  {command : Command} {flavor : Flavor} {options : DashboardOptions} {code : Int}

theorem text_of_isMade {build : Build} {settings : Settings} {text : Text} {bytes : ByteArray}
    (hbuild : options.build.build = .ok build)
    (h : IsMade identity flavor build options σ settings text bytes) :
    options.text identity flavor σ = .ok text := by
  rw [DashboardOptions.text, hbuild]
  exact (bind_of_eq_ok h.settingsAre _).trans h.textIs

/-- The dashboard of a command that succeeds without a dry run. -/
theorem dashboardIsPut_of_program (hread : Invocation.read arguments = .ok ⟨verbose, some command⟩)
    (hsingle : command.single? σ = some (flavor, options)) (hdry : ¬ options.dryRun = true)
    (hcode : code = 0 ∨ code = 1)
    (h : (program identity arguments).on σ = (.ok (.exit code), σ')) :
    DashboardIsPut identity flavor options σ σ' := by
  obtain ⟨build, settings, text, bytes, hbuild, hmade, hput⟩ :=
    of_program_single hread hsingle hdry hcode h
  obtain ⟨place, hresolve, hfile⟩ := FileTree.fileIsPut_of_put hput
  exact ⟨settings, text, bytes, place, hmade.settingsAre, text_of_isMade hbuild hmade, hmade.bytesAre,
    hresolve, hfile⟩

/-- **Exit codes tell the truth about the files.** -/
theorem endingIsTruthful (hread : Invocation.read arguments = .ok ⟨verbose, some command⟩) :
    EndingIsTruthful identity command σ ((program identity arguments).on σ).1
      ((program identity arguments).on σ).2 := by
  generalize hended : (program identity arguments).on σ = ended
  obtain ⟨ending, σ'⟩ := ended
  have hall : ∀ code : Int, code = 0 ∨ code = 1 → ending = .ok (.exit code) →
      code = if ∀ d ∈ command.decisions σ, d.isSupported Registry.standard = true then 0 else 1 := by
    rintro code hcode rfl
    obtain ⟨σ₀, hsetUp, hbody⟩ := of_program_of_succeeds hread hcode hended
    rw [← hsetUp.decisions]
    exact Command.of_body hbody
  constructor
  case reported =>
    rintro code hcode rfl
    exact of_program_of_reports hread hcode hended
  case dryRun =>
    intro hdry
    exact (keepsFiles_program hread (Command.keepsFiles_body_of_isDryRun hdry)).of_eq hended
  case written =>
    rintro flavor options hsingle hdry code hcode rfl
    exact dashboardIsPut_of_program hread hsingle hdry (by simpa using hcode) hended
  case skipped =>
    intro hending
    have h := hall 1 (.inr rfl) hending
    split at h
    · exact absurd h (by decide)
    · next hsome => simpa using hsome
  case noneSkipped =>
    intro hending
    have h := hall 0 (.inl rfl) hending
    split at h
    · next hevery => exact hevery
    · exact absurd h (by decide)

/-! ### A run that skips a decision -/

/-- The file `t` holds an empty dashboard, and the file `d` two decisions, one of which declares no type. -/
def skippingSession : Session :=
  { files := ⟨[(["t"], .file "\x7b\x7d".toUTF8),
      (["d"], .file "decisions: [\x7bname: x\x7d, \x7bname: y, type: string\x7d]".toUTF8)]⟩
    home := [] }

/-- What a command line for a decision model gives for its dashboard. -/
def skippingOptions : DashboardOptions :=
  { endpoint := "e", build := ⟨some "a", some "1"⟩, template := some "t", output := some "f" }

theorem endingIsTruthful_skipping : ∃ σ',
    (program (.fixed ⟨7, "u"⟩) ["decision", "e", "-a", "a", "--version", "1", "-t", "t", "-d", "d",
      "-o", "f"]).on skippingSession = (.ok (.exit 1), σ') ∧
    DashboardIsPut (.fixed ⟨7, "u"⟩)
      (.decisionModel ((Command.decision "d" skippingOptions).decisions skippingSession))
      skippingOptions skippingSession σ' ∧
    ∃ d ∈ (Command.decision "d" skippingOptions).decisions skippingSession,
      ¬ d.isSupported Registry.standard = true := by
  have hread : Invocation.read ["decision", "e", "-a", "a", "--version", "1", "-t", "t", "-d", "d",
      "-o", "f"] = .ok ⟨false, some (.decision "d" skippingOptions)⟩ :=
    eq_ok_of_toOption_eq_some (by decide +kernel)
  obtain ⟨σ', hends⟩ : ∃ σ', (program (.fixed ⟨7, "u"⟩) ["decision", "e", "-a", "a", "--version", "1",
      "-t", "t", "-d", "d", "-o", "f"]).on skippingSession = (.ok (.exit 1), σ') :=
    Run.exists_of_on_fst (eq_ok_of_toOption_eq_some (by decide +kernel))
  have htruth : EndingIsTruthful (.fixed ⟨7, "u"⟩) (.decision "d" skippingOptions) skippingSession _ _ :=
    endingIsTruthful hread
  rw [hends] at htruth
  exact ⟨σ', hends, htruth.written _ _ rfl (by decide) 1 (by simp) rfl, htruth.skipped rfl⟩

end DashboardSynthesis
