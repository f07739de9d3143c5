import DashboardSynthesis.Proofs.Command.Dashboard

/-!
# Making all dashboards of an endpoint

The command that makes both dashboards of an endpoint makes them one after the other, and has made both
before it writes the first one.  If it succeeds (`of_makeEndpointDashboards`), each of them is the one that
the options of a command for it alone would ask for, with the audit link if the options or the settings
want it; the second identity is drawn for the second one; and the files are put below one directory.
-/

namespace DashboardSynthesis

variable {σ σ' : Session}

namespace EndpointOptions

/-- What both dashboards are made for. -/
def request (options : EndpointOptions) (build : Build) (decisions : Option (List Decision)) :
    EndpointRequest :=
  { endpoint := options.endpoint
    build
    decisions
    auditLink := if options.auditLink then some true else none }

/-- Does a dashboard get the audit link? -/
def getsAuditLink (options : EndpointOptions) (settings : Settings) : Bool :=
  options.auditLink || settings.auditLink

/-- What one dashboard is made with, if a command is given the endpoint and the build. -/
def dashboard (options : EndpointOptions) (auditLink : Bool) : DashboardOptions :=
  { endpoint := options.endpoint, build := options.build, auditLink }

/-- The path of a dashboard of a flavor. -/
def target (options : EndpointOptions) (flavor : Flavor) (settings : Settings) : Path :=
  (Path.ofText ((given? options.outputDirectory).getD settings.outputDirectory)).join
    (.ofText (flavor.path options.endpoint))

/-- The decisions of the decision model if there is one, or how it comes that they cannot be read. -/
def decisionsOutcome (options : EndpointOptions) (platform : Platform) (files : FileTree)
    (home : Location) : Except Failure (Option (List Decision)) :=
  match given? options.decisions with
  | none => .ok none
  | some name => (Decision.loadOutcome platform files home name).map some

end EndpointOptions

/-- The flavor of the domain dashboard: that of a decision model if there is one. -/
def Flavor.ofDecisions : Option (List Decision) → Flavor
  | some decisions => .decisionModel decisions
  | none => .ruleUnit

/-! ## The steps -/

theorem Run.of_orReport {α : Type} {e : Except Report α} {a : α}
    (h : (Run.orReport e).on σ = (.ok a, σ')) : e = .ok a ∧ σ = σ' := by
  cases e with
  | error r => exact absurd (Prod.mk.inj h).1 (by simp)
  | ok b =>
    obtain ⟨rfl, rfl⟩ := Run.eq_of_on_pure h
    exact ⟨rfl, rfl⟩

theorem Run.keepsFiles_orReport {α : Type} (e : Except Report α) :
    Run.KeepsFiles (Run.orReport e) := by
  intro σ
  cases e <;> rfl

theorem Run.printsOnly_sayTitle (title : Text) : Run.PrintsOnly (Run.sayTitle title) := by
  refine Run.printsOnly_bind (Run.printsOnly_print _) fun _ => ?_
  exact Run.printsOnly_bind Run.printsOnly_get fun _ => Run.printsOnly_printShown _

namespace Command

variable {identity : IdentitySource} {options : EndpointOptions} {code : Int}

theorem logsOnly_loadGiven (options : EndpointOptions) :
    Run.LogsOnly ((given? options.decisions).mapM Decision.load) := by
  cases given? options.decisions with
  | none => exact Run.logsOnly_of_eq fun _ => rfl
  | some name =>
    exact Run.logsOnly_bind (Decision.logsOnly_load name) fun _ => Run.logsOnly_of_eq fun _ => rfl

theorem of_loadGiven {decisions : Option (List Decision)}
    (h : ((given? options.decisions).mapM Decision.load).on σ = (.ok decisions, σ')) :
    options.decisionsOutcome σ.platform σ.files σ.home = .ok decisions ∧ ∃ l, σ' = σ.withLog l := by
  refine ⟨?_, (logsOnly_loadGiven options).of_eq h⟩
  rw [EndpointOptions.decisionsOutcome]
  cases hgiven : given? options.decisions with
  | none =>
    rw [hgiven] at h
    exact (Prod.mk.inj h).1
  | some name =>
    rw [hgiven] at h
    obtain ⟨ds, σ₁, hload, hpure⟩ := Run.exists_of_on_bind h
    obtain ⟨houtcome, -⟩ := Decision.of_load hload
    obtain ⟨rfl, -⟩ := Run.eq_of_on_pure hpure
    dsimp only
    rw [houtcome]
    rfl

theorem keepsFiles_outputDirectory (options : EndpointOptions) :
    Run.KeepsFiles (outputDirectory options) := by
  rw [outputDirectory]
  split
  · exact Run.keepsFiles_pure _
  · exact Run.keepsFiles_bind Run.keepsFiles_settings fun _ => Run.keepsFiles_pure _

theorem of_outputDirectory {settings : Settings} {directory : Text}
    (hread : σ.settings? = some settings)
    (h : (outputDirectory options).on σ = (.ok directory, σ')) :
    directory = (given? options.outputDirectory).getD settings.outputDirectory ∧ σ' = σ := by
  rw [outputDirectory] at h
  split at h
  · next directory' heq =>
    obtain ⟨hdirectory, hσ⟩ := Run.eq_of_on_pure h
    rw [heq]
    exact ⟨hdirectory.symm, hσ.symm⟩
  · next heq =>
    obtain ⟨settings', σ₁, hsettings, hpure⟩ := Run.exists_of_on_bind h
    obtain ⟨rfl, rfl⟩ := of_settings_of_settings? hread hsettings
    obtain ⟨hdirectory, hσ⟩ := Run.eq_of_on_pure hpure
    rw [heq]
    exact ⟨hdirectory.symm, hσ.symm⟩

end Command

theorem DashboardFile.neverReports_writeAll (directory : Path) (files : List DashboardFile) :
    Run.NeverReports (DashboardFile.writeAll directory files) := by
  rw [DashboardFile.writeAll]
  induction files with
  | nil => exact Run.neverReports_pure _
  | cons file files ih =>
    rw [List.mapM_cons]
    exact Run.neverReports_bind (DashboardFile.neverReports_write _ _) fun _ =>
      Run.neverReports_bind ih fun _ => Run.neverReports_pure _

/-- The tree with files put below a directory, in order. -/
def FileTree.putAll (home : Location) (directory : Path) :
    List DashboardFile → FileTree → Except FileFault FileTree
  | [], tree => .ok tree
  | file :: files, tree => do
    let tree ← tree.put home (directory.join (.ofText file.path)) file.contents
    putAll home directory files tree

theorem FileTree.exists_of_putAll_cons {home : Location} {directory : Path} {file : DashboardFile}
    {files : List DashboardFile} {tree tree' : FileTree}
    (h : putAll home directory (file :: files) tree = .ok tree') :
    ∃ between, tree.put home (directory.join (.ofText file.path)) file.contents = .ok between ∧
      putAll home directory files between = .ok tree' := by
  rw [putAll] at h
  exact exists_of_bind_eq_ok h

theorem DashboardFile.of_writeAll {directory : Path} {files : List DashboardFile} {paths : List Path}
    (h : (DashboardFile.writeAll directory files).on σ = (.ok paths, σ')) :
    paths = files.map (fun file => directory.join (.ofText file.path)) ∧
      ∃ tree l, FileTree.putAll σ.home directory files σ.files = .ok tree ∧
        σ' = (σ.withFiles tree).withLog l := by
  rw [DashboardFile.writeAll] at h
  induction files generalizing σ σ' paths with
  | nil =>
    rw [List.mapM_nil] at h
    obtain ⟨rfl, rfl⟩ := Run.eq_of_on_pure h
    exact ⟨rfl, σ.files, σ.log, rfl, rfl⟩
  | cons file files ih =>
    rw [List.mapM_cons] at h
    obtain ⟨path, σ₁, hfirst, hrest⟩ := Run.exists_of_on_bind h
    obtain ⟨rfl, between, l, hput, rfl⟩ := DashboardFile.of_write hfirst
    obtain ⟨others, σ₂, hothers, hpure⟩ := Run.exists_of_on_bind hrest
    obtain ⟨rfl, tree, l', htree, rfl⟩ := ih hothers
    obtain ⟨rfl, rfl⟩ := Run.eq_of_on_pure hpure
    refine ⟨rfl, tree, l', ?_, rfl⟩
    rw [FileTree.putAll]
    exact (bind_of_eq_ok hput _).trans htree

/-! ## The whole -/

variable {identity : IdentitySource} {options : EndpointOptions} {code : Int}

theorem keepsFiles_endpointDashboards (s : Synthesizer) (r : EndpointRequest) :
    Run.KeepsFiles (endpointDashboards (pure s) r) := by
  refine Run.keepsFiles_bind Run.keepsFiles_settings fun settings => ?_
  refine Run.keepsFiles_bind (Run.keepsFiles_pure s) fun s => ?_
  refine Run.keepsFiles_bind (Synthesizer.keepsFiles_dashboard _) fun operational => ?_
  refine Run.keepsFiles_bind (Synthesizer.keepsFiles_dashboard _) fun domain => ?_
  exact Run.keepsFiles_bind (DashboardFile.keepsFiles_ofDashboard _ _ _) fun _ =>
    Run.keepsFiles_bind (DashboardFile.keepsFiles_ofDashboard _ _ _) fun _ => Run.keepsFiles_pure _

theorem of_endpointDashboards {build : Build} {decisions : Option (List Decision)}
    {settings : Settings} {files : List DashboardFile} (hread : σ.settings? = some settings)
    (h : (endpointDashboards (pure (settings.synthesizer identity))
      (options.request build decisions)).on σ = (.ok files, σ')) :
    ∃ text₁ bytes₁ text₂ bytes₂ l,
      IsMade identity .operational build (options.dashboard (options.getsAuditLink settings)) σ
        settings text₁ bytes₁ ∧
      IsMade identity (.ofDecisions decisions) build
        (options.dashboard (options.getsAuditLink settings)) σ.drawn settings text₂ bytes₂ ∧
      files = [⟨Flavor.operational.path options.endpoint, bytes₁⟩,
        ⟨(Flavor.ofDecisions decisions).path options.endpoint, bytes₂⟩] ∧
      σ' = σ.drawn.synthesized (Command.warningsOf identity (.ofDecisions decisions) build
        (options.dashboard (options.getsAuditLink settings)) settings) l := by
  obtain ⟨settings', σ₁, hsettings, hrest⟩ := Run.exists_of_on_bind h
  obtain ⟨rfl, rfl⟩ := Command.of_settings_of_settings? hread hsettings
  obtain ⟨s, σ₂, hpure, hrest⟩ := Run.exists_of_on_bind hrest
  obtain ⟨rfl, rfl⟩ := Run.eq_of_on_pure hpure
  have haudit : (options.request build decisions).auditLink.getD settings'.auditLink =
      options.getsAuditLink settings' := by
    rw [EndpointOptions.request, EndpointOptions.getsAuditLink]
    cases options.auditLink <;> rfl
  rw [haudit] at hrest
  obtain ⟨text₁, σ₃, hoperational, hrest⟩ := Run.exists_of_on_bind hrest
  obtain ⟨htext₁, l₁, rfl⟩ := Synthesizer.of_dashboard hoperational
  obtain ⟨text₂, σ₄, hdomain, hrest⟩ := Run.exists_of_on_bind hrest
  obtain ⟨htext₂, l₂, rfl⟩ := Synthesizer.of_dashboard hdomain
  obtain ⟨file₁, σ₅, hfile₁, hrest⟩ := Run.exists_of_on_bind hrest
  obtain ⟨bytes₁, hbytes₁, rfl, rfl⟩ := DashboardFile.of_ofDashboard hfile₁
  obtain ⟨file₂, σ₆, hfile₂, hrest⟩ := Run.exists_of_on_bind hrest
  obtain ⟨bytes₂, hbytes₂, rfl, rfl⟩ := DashboardFile.of_ofDashboard hfile₂
  obtain ⟨rfl, rfl⟩ := Run.eq_of_on_pure hrest
  have hsettingsAre := Session.settingsOutcome_of_settings? hread
  have hflavor : (options.request build decisions).domainFlavor = .ofDecisions decisions := by
    cases decisions <;> rfl
  rw [hflavor] at htext₂ ⊢
  have htemplate : Command.standardTemplate (.ofDecisions decisions) settings' =
      settings'.domainTemplate := by
    cases decisions <;> rfl
  have hrequest : (options.dashboard (options.getsAuditLink settings')).request
      (.ofDecisions decisions) settings' build =
        { template := settings'.domainTemplate
          name := dashboardName (some build) options.endpoint
          endpoint := options.endpoint
          build
          auditLink := options.getsAuditLink settings' } := by
    rw [← htemplate]
    rfl
  refine ⟨text₁, bytes₁, text₂, bytes₂, l₂, ⟨hsettingsAre, htext₁, hbytes₁⟩,
    ⟨hsettingsAre, ?_, hbytes₂⟩, rfl, ?_⟩
  · rw [hrequest]
    exact htext₂
  · rw [Command.warningsOf, hrequest]
    -- nothing is warned of in making the operational dashboard
    exact Session.synthesized_synthesized_nil _ _ l₁ l₂

theorem Command.reportsFirst_makeEndpointDashboards :
    Run.ReportsFirst (Command.makeEndpointDashboards identity options) := by
  refine Run.reportsFirst_bind (Run.keepsFiles_orReport _) fun build => ?_
  refine Run.reportsFirst_bind (Command.logsOnly_loadGiven options).keepsFiles fun decisions => ?_
  refine Run.reportsFirst_bind (Run.printsOnly_sayTitle _).keepsFiles fun _ => ?_
  refine Run.reportsFirst_bind (Run.printsOnly_say _).keepsFiles fun _ => ?_
  refine Run.reportsFirst_bind (Run.printsOnly_say _).keepsFiles fun _ => ?_
  refine Run.reportsFirst_bind (Run.printsOnly_say _).keepsFiles fun _ => ?_
  refine Run.reportsFirst_bind (Synthesizer.keepsFiles_make identity) fun s => ?_
  refine Run.reportsFirst_bind (keepsFiles_endpointDashboards s _) fun files => ?_
  refine Run.reportsFirst_bind (Command.keepsFiles_outputDirectory options) fun directory => ?_
  refine Run.NeverReports.reportsFirst ?_
  exact Run.neverReports_bind (DashboardFile.neverReports_writeAll _ _) fun _ =>
    Run.neverReports_bind (Run.neverReports_forM (fun _ => Run.neverReports_say _) _) fun _ =>
      Run.neverReports_bind Run.neverReports_get fun _ => Command.neverReports_sayWarnings _

namespace Command

/-- Makes all dashboards of an endpoint, as `makeEndpointDashboards` does, up to where they are told. -/
def putEndpointDashboards (identity : IdentitySource) (options : EndpointOptions) :
    Run (List Text) := do
  let build ← Run.orReport options.build.build
  let decisions ← (given? options.decisions).mapM Decision.load
  Run.sayTitle (("Dashboards for " : Text) ++ options.endpoint)
  Run.sayValue "Artifact" build.artifactId
  Run.sayValue "Version" build.version
  Run.sayValue "Flavor" (if decisions.isSome then ("decision model" : Text) else "rule unit")
  let synthesizer ← Synthesizer.make identity
  let files ← endpointDashboards (pure synthesizer)
    { endpoint := options.endpoint
      build
      decisions
      auditLink := if options.auditLink then some true else none }
  let paths ← DashboardFile.writeAll (.ofText (← outputDirectory options)) files
  pure (paths.map fun path => ("Wrote " : Text) ++ path.toText)

theorem makeEndpointDashboards_eq :
    makeEndpointDashboards identity options = putEndpointDashboards identity options >>= tell := by
  have htell : ∀ paths : List Path, (do
      paths.forM fun path => Run.saySuccess (("Wrote " : Text) ++ path.toText)
      sayWarnings (← get).warnings) =
        tell (paths.map fun path => ("Wrote " : Text) ++ path.toText) := by
    intro paths
    simp only [tell, List.forM_eq_forM, List.forM_map]
  rw [makeEndpointDashboards, putEndpointDashboards]
  simp only [bind_assoc, pure_bind, htell]

/-- **Both dashboards.**  They have been made before the first one is put, and the warnings that are then
given are those about the decisions that are skipped.  The platform is the one there was. -/
theorem of_putEndpointDashboards {notices : List Text}
    (h : (putEndpointDashboards identity options).on σ = (.ok notices, σ')) :
    ∃ build decisions settings text₁ bytes₁ text₂ bytes₂ files,
      options.build.build = .ok build ∧
      options.decisionsOutcome σ.platform σ.files σ.home = .ok decisions ∧
      IsMade identity .operational build (options.dashboard (options.getsAuditLink settings)) σ
        settings text₁ bytes₁ ∧
      IsMade identity (.ofDecisions decisions) build
        (options.dashboard (options.getsAuditLink settings)) σ.drawn settings text₂ bytes₂ ∧
      σ.files.put σ.home (options.target .operational settings) bytes₁ = .ok files ∧
      files.put σ.home (options.target (.ofDecisions decisions) settings) bytes₂ = .ok σ'.files ∧
      σ'.warnings = warningsOf identity (.ofDecisions decisions) build
        (options.dashboard (options.getsAuditLink settings)) settings ∧
      σ'.platform = σ.platform := by
  obtain ⟨build, σ₁, hreport, hrest⟩ := Run.exists_of_on_bind h
  obtain ⟨hbuild, rfl⟩ := Run.of_orReport hreport
  obtain ⟨decisions, σ₂, hload, hrest⟩ := Run.exists_of_on_bind hrest
  obtain ⟨hdecisions, l, rfl⟩ := of_loadGiven hload
  obtain ⟨⟨⟩, σ₃, htitle, hrest⟩ := Run.exists_of_on_bind hrest
  obtain ⟨t, rfl⟩ := (Run.printsOnly_sayTitle _).of_eq htitle
  obtain ⟨⟨⟩, σ₄, hartifact, hrest⟩ := Run.exists_of_on_bind hrest
  obtain ⟨t, rfl⟩ := (Run.printsOnly_say _).of_eq hartifact
  obtain ⟨⟨⟩, σ₅, hversion, hrest⟩ := Run.exists_of_on_bind hrest
  obtain ⟨t, rfl⟩ := (Run.printsOnly_say _).of_eq hversion
  obtain ⟨⟨⟩, σ₆, hflavor, hrest⟩ := Run.exists_of_on_bind hrest
  obtain ⟨t, rfl⟩ := (Run.printsOnly_say _).of_eq hflavor
  obtain ⟨s, σ₇, hmake, hrest⟩ := Run.exists_of_on_bind hrest
  obtain ⟨settings, hsettings, rfl, rfl⟩ := Synthesizer.of_make hmake
  obtain ⟨files, σ₈, hboth, hrest⟩ := Run.exists_of_on_bind hrest
  obtain ⟨text₁, bytes₁, text₂, bytes₂, l', h₁, h₂, rfl, rfl⟩ := of_endpointDashboards rfl hboth
  obtain ⟨directory, σ₉, hdirectory, hrest⟩ := Run.exists_of_on_bind hrest
  obtain ⟨rfl, rfl⟩ := of_outputDirectory rfl hdirectory
  obtain ⟨paths, σ₁₀, hwrite, hpure⟩ := Run.exists_of_on_bind hrest
  obtain ⟨-, tree, l'', htree, rfl⟩ := DashboardFile.of_writeAll hwrite
  obtain ⟨-, rfl⟩ := Run.eq_of_on_pure hpure
  obtain ⟨between, hput₁, htree⟩ := FileTree.exists_of_putAll_cons htree
  obtain ⟨tree', hput₂, htree⟩ := FileTree.exists_of_putAll_cons htree
  obtain rfl := Except.ok.inj htree
  have hread : σ.settingsOutcome = .ok settings :=
    (Session.settingsOutcome_congr rfl rfl rfl).trans hsettings
  have hread' : σ.drawn.settingsOutcome = .ok settings :=
    (Session.settingsOutcome_congr rfl rfl rfl).trans hsettings
  refine ⟨build, decisions, settings, text₁, bytes₁, text₂, bytes₂, between, hbuild, hdecisions,
    h₁.congr hread ?files₁ ?home₁ ?ids₁ ?uids₁, h₂.congr hread' ?files₂ ?home₂ ?ids₂ ?uids₂, ?put₁, ?put₂,
    ?warnings, ?platform⟩
  case put₁ => simpa [Session.synthesized, Session.prepared, EndpointOptions.target] using hput₁
  case put₂ => simpa [Session.synthesized, Session.prepared, EndpointOptions.target] using hput₂
  case warnings => rfl
  case platform => simp [Session.synthesized, Session.prepared]
  -- what has been said and logged does not matter to what is made
  all_goals simp [Session.prepared]

/-- What the command leaves. -/
theorem of_makeEndpointDashboards
    (h : (makeEndpointDashboards identity options).on σ = (.ok code, σ')) :
    ∃ build decisions settings text₁ bytes₁ text₂ bytes₂ files,
      options.build.build = .ok build ∧
      options.decisionsOutcome σ.platform σ.files σ.home = .ok decisions ∧
      IsMade identity .operational build (options.dashboard (options.getsAuditLink settings)) σ
        settings text₁ bytes₁ ∧
      IsMade identity (.ofDecisions decisions) build
        (options.dashboard (options.getsAuditLink settings)) σ.drawn settings text₂ bytes₂ ∧
      σ.files.put σ.home (options.target .operational settings) bytes₁ = .ok files ∧
      files.put σ.home (options.target (.ofDecisions decisions) settings) bytes₂ = .ok σ'.files ∧
      code = codeOf (warningsOf identity (.ofDecisions decisions) build
        (options.dashboard (options.getsAuditLink settings)) settings) := by
  rw [makeEndpointDashboards_eq] at h
  obtain ⟨notices, σ₁, hput, htell⟩ := Run.exists_of_on_bind h
  obtain ⟨build, decisions, settings, text₁, bytes₁, text₂, bytes₂, files, hbuild, hdecisions, h₁, h₂,
    hput₁, hput₂, hwarnings, -⟩ := of_putEndpointDashboards hput
  obtain ⟨hcode, front, lines, -, -, rfl⟩ := tell_on_iff.1 htell
  rw [hwarnings] at hcode
  exact ⟨build, decisions, settings, text₁, bytes₁, text₂, bytes₂, files, hbuild, hdecisions, h₁, h₂,
    hput₁, hput₂, hcode⟩

end Command
end DashboardSynthesis
