import DashboardSynthesis.Decision.File
import DashboardSynthesis.Proofs.Session.Effects

/-!
# What commands read

What is read from the files depends on the files alone, and reading changes nothing.  The outcomes of
reading are computed here without a session: of a file (`contentsOutcome`) and its text (`textOutcome`), of
the variables in the file of variables (`variablesOutcome`) and of a file of decisions, where the platform
reads the YAML (`Decision.loadOutcome`).

The settings also depend on the environment, and on whether they have been read before.  In
`Session.settingsOutcome` all of it comes together, and reading them changes nothing but that they have
been read (`settings_on`).
-/

namespace DashboardSynthesis

variable {files files' : FileTree} {home : Location} {σ σ' : Session}

namespace Run

/-! ## Files -/

/-- What is at a path, or how it comes that this cannot be found out. -/
def probeOutcome (files : FileTree) (home : Location) (path : Path) :
    Except Failure (Option Entry) :=
  (files.probe home path).mapError fun fault => .broken (fileBreakdown path fault)

/-- The contents of the file at a path, or how it comes that there are none. -/
def contentsOutcome (files : FileTree) (home : Location) (path : Path) : Except Failure ByteArray :=
  (files.readFile home path).mapError fun fault => .broken (fileBreakdown path fault)

/-- The text of the file at a path, or how it comes that there is none. -/
def textOutcome (files : FileTree) (home : Location) (path : Path) : Except Failure Text := do
  match Text.ofFile? (← contentsOutcome files home path) with
  | some text => pure text
  | none => throw (.broken .undecodable)

theorem probe_on (path : Path) (σ : Session) :
    (probe path).on σ = (probeOutcome σ.files σ.home path, σ) := by
  rw [probe, on_bind_ok (on_get σ), probeOutcome]
  cases σ.files.probe σ.home path <;> rfl

theorem readFile_on (path : Path) (σ : Session) :
    (readFile path).on σ = (contentsOutcome σ.files σ.home path, σ) := by
  rw [readFile, on_bind_ok (on_get σ), contentsOutcome]
  cases σ.files.readFile σ.home path <;> rfl

theorem readText_on (path : Path) (σ : Session) :
    (readText path).on σ = (textOutcome σ.files σ.home path, σ) := by
  rw [readText, on_bind, readFile_on, textOutcome]
  cases contentsOutcome σ.files σ.home path with
  | error failure => rfl
  | ok contents =>
    dsimp only
    rw [bind_of_eq_ok rfl]
    cases Text.ofFile? contents <;> rfl

theorem neverReports_probe (path : Path) : NeverReports (probe path) := by
  refine neverReports_bind neverReports_get fun s => ?_
  split
  · exact neverReports_pure _
  · exact neverReports_breakWith _

theorem neverReports_readText (path : Path) : NeverReports (readText path) := by
  refine neverReports_bind (neverReports_bind neverReports_get fun s => ?_) fun contents => ?_
  · split
    · exact neverReports_pure _
    · exact neverReports_breakWith _
  · split
    · exact neverReports_pure _
    · exact neverReports_breakWith _

/-! ## Settings -/

/-- The variables in the file of variables, or how it comes that they cannot be read. -/
def variablesOutcome (files : FileTree) (home : Location) :
    Except Failure (List (Text × Option Text)) := do
  match ← probeOutcome files home variableFile with
  | some (.file _) => return VariableFile.read (← textOutcome files home variableFile)
  | _ => pure []

theorem fileVariables_on (σ : Session) :
    fileVariables.on σ = (variablesOutcome σ.files σ.home, σ) := by
  rw [fileVariables, variablesOutcome, on_bind, probe_on]
  cases probeOutcome σ.files σ.home variableFile with
  | error failure => rfl
  | ok entry =>
    rcases entry with _ | contents | _
    · rfl
    · show (readText variableFile >>= fun text => pure (VariableFile.read text)).on σ =
        (textOutcome σ.files σ.home variableFile >>= fun text => pure (VariableFile.read text), σ)
      rw [on_bind, readText_on]
      cases textOutcome σ.files σ.home variableFile <;> rfl
    · rfl

end Run

namespace Session

/-- The settings, or how it comes that there are none. -/
def settingsOutcome (σ : Session) : Except Failure Settings :=
  match σ.settings? with
  | some settings => .ok settings
  | none => do
    let file ← Run.variablesOutcome σ.files σ.home
    (Settings.load σ.environment file).mapError fun fields => .broken (.settings fields)

/-- The session once the settings have been read. -/
@[simps] def withSettings (σ : Session) (settings : Settings) : Session :=
  { σ with settings? := some settings }

/-- The settings depend on the environment and on the variables in the file of variables, unless they
have been read. -/
theorem settingsOutcome_congr {τ : Session} (hread : τ.settings? = σ.settings?)
    (henvironment : τ.environment = σ.environment)
    (hfile : Run.variablesOutcome τ.files τ.home = Run.variablesOutcome σ.files σ.home) :
    τ.settingsOutcome = σ.settingsOutcome := by
  rw [settingsOutcome, settingsOutcome, hread, henvironment, hfile]

theorem settingsOutcome_of_settings? {settings : Settings} (h : σ.settings? = some settings) :
    σ.settingsOutcome = .ok settings := by
  rw [settingsOutcome, h]

theorem withSettings_of_settings? {settings : Settings} (h : σ.settings? = some settings) :
    σ.withSettings settings = σ := by
  rw [withSettings, ← h]

end Session

namespace Run

theorem settings_on (σ : Session) :
    settings.on σ =
      match σ.settingsOutcome with
      | .ok settings => (.ok settings, σ.withSettings settings)
      | .error failure => (.error failure, σ) := by
  rw [settings, on_bind_ok (on_get σ), Session.settingsOutcome]
  cases hread : σ.settings? with
  | some settings =>
    dsimp only
    rw [Session.withSettings_of_settings? hread]
    rfl
  | none =>
    dsimp only
    rw [on_bind, fileVariables_on]
    cases variablesOutcome σ.files σ.home with
    | error failure => rfl
    | ok file =>
      dsimp only
      rw [on_bind_ok (on_get σ), bind_of_eq_ok rfl]
      cases Settings.load σ.environment file <;> rfl

theorem of_settings {settings : Settings} (h : Run.settings.on σ = (.ok settings, σ')) :
    σ.settingsOutcome = .ok settings ∧ σ' = σ.withSettings settings := by
  rw [settings_on] at h
  cases hread : σ.settingsOutcome with
  | error failure =>
    rw [hread] at h
    exact absurd (Prod.mk.inj h).1 (by simp)
  | ok settings' =>
    rw [hread] at h
    obtain ⟨hsettings, hσ⟩ := Prod.mk.inj h
    rw [← Except.ok.inj hsettings]
    exact ⟨rfl, hσ.symm⟩

theorem keepsFiles_settings : KeepsFiles settings := by
  intro σ
  rw [settings_on]
  cases σ.settingsOutcome <;> rfl

theorem neverReports_fileVariables : NeverReports fileVariables := by
  refine neverReports_bind (neverReports_probe _) fun entry => ?_
  split
  · exact neverReports_bind (neverReports_readText _) fun text => neverReports_pure _
  · exact neverReports_pure _

theorem neverReports_settings : NeverReports settings := by
  refine neverReports_bind neverReports_get fun s => ?_
  split
  · exact neverReports_pure _
  · refine neverReports_bind neverReports_fileVariables fun file =>
      neverReports_bind neverReports_get fun s' => ?_
    split
    · exact neverReports_breakWith _
    · exact neverReports_bind (neverReports_modify _) fun _ => neverReports_pure _

end Run

/-! ## Decisions -/

/-- The decisions in the file at a path, or how it comes that there are none. -/
def Decision.loadOutcome (platform : Platform) (files : FileTree) (home : Location) (name : Text) :
    Except Failure (List Decision) := do
  let path := Path.ofText name
  match ← Run.probeOutcome files home path with
  | none =>
    throw (.reported
      (fileReport path.toText (("Decision file not found: " : Text) ++ path.toText)))
  | some _ =>
    let contents ← Run.contentsOutcome files home path
    match platform.yaml path.toText contents with
    | .error refusal => throw (failureOfYaml path.toText refusal)
    | .ok v =>
      if v.isNull then pure []
      else (ofFileValue platform.levels v).mapError (failureOf path.toText)

theorem Decision.load_on_fst (name : Text) (σ : Session) :
    ((load name).on σ).1 = loadOutcome σ.platform σ.files σ.home name := by
  rw [load, loadOutcome, Run.on_bind_fst, Run.probe_on]
  refine congrArg _ (funext fun entry => ?_)
  cases entry with
  | none => rfl
  | some entry =>
    refine (Run.on_bind_fst _ _ _).trans ?_
    rw [Run.readFile_on]
    refine congrArg _ (funext fun contents => ?_)
    rw [Run.on_bind_ok (Run.on_get σ)]
    dsimp only
    generalize σ.platform.yaml (Path.ofText name).toText contents = value
    rcases value with refusal | v
    · rfl
    · dsimp only
      by_cases hnull : v.isNull = true
      · rw [if_pos hnull, if_pos hnull]
        rfl
      · rw [if_neg hnull, if_neg hnull]
        cases ofFileValue σ.platform.levels v <;> rfl

theorem Decision.logsOnly_load (name : Text) : Run.LogsOnly (load name) := by
  refine Run.logsOnly_bind (Run.logsOnly_of_eq fun σ => by rw [Run.probe_on]) fun entry => ?_
  split
  · exact Run.logsOnly_of_eq fun _ => rfl
  · refine Run.logsOnly_bind (Run.logsOnly_of_eq fun σ => by rw [Run.readFile_on]) fun contents => ?_
    refine Run.logsOnly_bind (Run.logsOnly_of_eq fun _ => rfl) fun σ => ?_
    dsimp only
    split
    · exact Run.logsOnly_of_eq fun _ => rfl
    · split
      · exact Run.logsOnly_of_eq fun _ => rfl
      · split
        · exact Run.logsOnly_of_eq fun _ => rfl
        · exact Run.logsOnly_bind (Run.logsOnly_log _) fun _ => Run.logsOnly_of_eq fun _ => rfl

theorem Decision.of_load {name : Text} {decisions : List Decision}
    (h : (load name).on σ = (.ok decisions, σ')) :
    loadOutcome σ.platform σ.files σ.home name = .ok decisions ∧ ∃ l, σ' = σ.withLog l :=
  ⟨by rw [← load_on_fst, h], (logsOnly_load name).of_eq h⟩

end DashboardSynthesis
