import DashboardSynthesis.Command.Basic
import DashboardSynthesis.Proofs.Session.Inputs
import DashboardSynthesis.Proofs.Synthesis.Effects

/-!
# Making one dashboard

A command that makes one dashboard synthesizes a text, puts it where it is to go, and prints the warnings
about decisions that are skipped.  What it asks the synthesizer for depends on its options and on the
settings (`DashboardOptions.request`), and so does the path to which the text goes
(`DashboardOptions.target`).  It tells of it only when all of this is done, so the command is one that puts
the dashboard, and behind it one that tells (`makeDashboard_eq`).

If such a command succeeds, then either it has printed the text and left the files alone
(`of_makeDashboard_of_dryRun`), or it has put the bytes of the text under its path
(`of_makeDashboard_of_not_dryRun`).  If it fails with a report it has not come as far as writing
(`reportsFirst_makeDashboard`).
-/

namespace DashboardSynthesis

variable {σ σ' : Session}

/-- The session once a synthesizer has been made under settings. -/
def Session.prepared (σ : Session) (settings : Settings) : Session :=
  (σ.withSettings settings).withWarnings []

/-! ## What is asked for -/

/-- The synthesizer that commands make under settings. -/
def Settings.synthesizer (settings : Settings) (identity : IdentitySource) : Synthesizer :=
  { identity, metric := settings.metricName, indent := settings.indent }

/-- The path of the dashboard of an endpoint, below the directory for output. -/
def Flavor.path (endpoint : Text) : Flavor → Text
  | .operational => DashboardFile.operationalPath endpoint
  | .decisionModel _ | .ruleUnit => DashboardFile.domainPath endpoint

namespace DashboardOptions

/-- What the dashboard is asked for. -/
def request (options : DashboardOptions) (flavor : Flavor) (settings : Settings) (build : Build) :
    DashboardRequest :=
  { template := (given? options.template).getD (Command.standardTemplate flavor settings)
    name := (given? options.name).getD (dashboardName (some build) options.endpoint)
    endpoint := options.endpoint
    build
    auditLink := options.auditLink }

/-- The path to which the dashboard goes. -/
def target (options : DashboardOptions) (flavor : Flavor) (settings : Settings) : Path :=
  match given? options.output with
  | some output => .ofText output
  | none => (Path.ofText settings.outputDirectory).join (.ofText (flavor.path options.endpoint))

end DashboardOptions

/-- A dashboard of a build is made under these settings: it has this text, stored as these bytes. -/
structure IsMade (identity : IdentitySource) (flavor : Flavor) (build : Build)
    (options : DashboardOptions) (σ : Session) (settings : Settings) (text : Text)
    (bytes : ByteArray) : Prop where
  settingsAre : σ.settingsOutcome = .ok settings
  textIs : (settings.synthesizer identity).outcome flavor (options.request flavor settings build) σ =
    .ok text
  bytesAre : text.encode? = some bytes

/-- What a synthesis gives depends on the session through the template and the identity only. -/
theorem Settings.outcome_synthesizer_congr {settings : Settings} {identity identity' : IdentitySource}
    {flavor : Flavor} {r : DashboardRequest} {τ : Session}
    (hload : loadTemplate τ.files τ.home r.template = loadTemplate σ.files σ.home r.template)
    (hid : identity'.id τ.idsDrawn = identity.id σ.idsDrawn)
    (huid : identity'.uid τ.uidsDrawn = identity.uid σ.uidsDrawn) :
    (settings.synthesizer identity').outcome flavor r τ =
      (settings.synthesizer identity).outcome flavor r σ := by
  have hprintable : (settings.synthesizer identity').idIsPrintable τ =
      (settings.synthesizer identity).idIsPrintable σ := congrArg (fun id => (Json.int id).isPrintable) hid
  have hcustomized : ∀ template, (settings.synthesizer identity').customized r τ template =
      (settings.synthesizer identity).customized r σ template := by
    intro template
    rw [Synthesizer.customized, Synthesizer.customized]
    exact congrArg (fun i => customize (markerValue r.endpoint r.build.artifactId r.build.version i)
      template) (congr (congrArg Identity.mk hid) huid)
  have hstart : (settings.synthesizer identity').startOutcome r (r.title flavor) τ =
      (settings.synthesizer identity).startOutcome r (r.title flavor) σ := by
    rw [Synthesizer.startOutcome, Synthesizer.startOutcome, hload, hprintable]
    simp only [hcustomized]
  have hextended : (settings.synthesizer identity').extended r =
      (settings.synthesizer identity).extended r := rfl
  rw [Synthesizer.outcome, Synthesizer.outcome, Synthesizer.edited, Synthesizer.edited, hstart, hextended]
  rfl

section

variable {identity identity' : IdentitySource} {flavor : Flavor} {build : Build}
  {options : DashboardOptions} {settings : Settings} {text : Text} {bytes : ByteArray} {τ : Session}

/-- Sessions under the same settings, with the same template and the same identity. -/
theorem IsMade.transfer (h : IsMade identity flavor build options σ settings text bytes)
    (hsettings : τ.settingsOutcome = .ok settings)
    (hload : loadTemplate τ.files τ.home (options.request flavor settings build).template =
      loadTemplate σ.files σ.home (options.request flavor settings build).template)
    (hid : identity'.id τ.idsDrawn = identity.id σ.idsDrawn)
    (huid : identity'.uid τ.uidsDrawn = identity.uid σ.uidsDrawn) :
    IsMade identity' flavor build options τ settings text bytes :=
  ⟨hsettings, (Settings.outcome_synthesizer_congr hload hid huid).trans h.textIs, h.bytesAre⟩

/-- Two dashboards are stored as the same bytes exactly if they have the same text. -/
theorem IsMade.bytes_eq_iff {flavor' : Flavor} {options' : DashboardOptions} {text' : Text}
    {bytes' : ByteArray} (h : IsMade identity flavor build options σ settings text bytes)
    (h' : IsMade identity' flavor' build options' τ settings text' bytes') :
    bytes = bytes' ↔ text = text' := by
  constructor
  · rintro rfl
    have hdecode := Text.decode?_of_encode? h.bytesAre
    rw [Text.decode?_of_encode? h'.bytesAre] at hdecode
    exact (Option.some_inj.1 hdecode).symm
  · rintro rfl
    exact Option.some_inj.1 (h.bytesAre.symm.trans h'.bytesAre)

/-- Sessions with the same files and the same number of identities drawn. -/
theorem IsMade.congr (h : IsMade identity flavor build options σ settings text bytes)
    (hsettings : τ.settingsOutcome = .ok settings) (hfiles : τ.files = σ.files)
    (hhome : τ.home = σ.home) (hids : τ.idsDrawn = σ.idsDrawn) (huids : τ.uidsDrawn = σ.uidsDrawn) :
    IsMade identity flavor build options τ settings text bytes := by
  refine h.transfer hsettings ?_ ?_ ?_
  · rw [hfiles, hhome]
  · rw [hids]
  · rw [huids]

end

/-! ## The steps -/

theorem Synthesizer.of_make {identity : IdentitySource} {s : Synthesizer}
    (h : (Synthesizer.make identity).on σ = (.ok s, σ')) :
    ∃ settings, σ.settingsOutcome = .ok settings ∧ s = settings.synthesizer identity ∧
      σ' = σ.prepared settings := by
  obtain ⟨settings, σ₁, hsettings, hrest⟩ := Run.exists_of_on_bind h
  obtain ⟨houtcome, rfl⟩ := Run.of_settings hsettings
  exact ⟨settings, houtcome, (Except.ok.inj (Prod.mk.inj hrest).1).symm, (Prod.mk.inj hrest).2.symm⟩

theorem Synthesizer.keepsFiles_make (identity : IdentitySource) :
    Run.KeepsFiles (Synthesizer.make identity) :=
  Run.keepsFiles_bind Run.keepsFiles_settings fun _ _ => rfl

namespace DashboardFile

theorem ofDashboard_on (flavor : Flavor) (endpoint text : Text) (σ : Session) :
    (ofDashboard flavor endpoint text).on σ =
      match text.encode? with
      | some bytes => (.ok ⟨flavor.path endpoint, bytes⟩, σ)
      | none => (.error (.broken .unencodable), σ) := by
  have hofText : ofDashboard flavor endpoint text = ofText (flavor.path endpoint) text := by
    cases flavor <;> rfl
  rw [hofText, ofText]
  cases text.encode? <;> rfl

theorem keepsFiles_ofDashboard (flavor : Flavor) (endpoint text : Text) :
    Run.KeepsFiles (ofDashboard flavor endpoint text) := by
  intro σ
  rw [ofDashboard_on]
  split <;> rfl

theorem of_ofDashboard {flavor : Flavor} {endpoint text : Text} {file : DashboardFile}
    (h : (ofDashboard flavor endpoint text).on σ = (.ok file, σ')) :
    ∃ bytes, text.encode? = some bytes ∧ file = ⟨flavor.path endpoint, bytes⟩ ∧ σ' = σ := by
  rw [ofDashboard_on] at h
  split at h
  · next bytes heq =>
    obtain ⟨hfile, hσ⟩ := Prod.mk.inj h
    exact ⟨bytes, heq, (Except.ok.inj hfile).symm, hσ.symm⟩
  · exact absurd (Prod.mk.inj h).1 (by simp)

theorem of_write {directory path : Path} {file : DashboardFile}
    (h : (write directory file).on σ = (.ok path, σ')) :
    path = directory.join (.ofText file.path) ∧
      ∃ files l, σ.files.put σ.home path file.contents = .ok files ∧
        σ' = (σ.withFiles files).withLog l := by
  obtain ⟨files, hfiles, hrest⟩ := Run.exists_of_put h
  obtain ⟨⟨⟩, σ₁, hlog, hpure⟩ := Run.exists_of_on_bind hrest
  obtain ⟨l, rfl⟩ := (Run.logsOnly_log _).of_eq hlog
  obtain ⟨rfl, rfl⟩ := Run.eq_of_on_pure hpure
  exact ⟨rfl, files, l, hfiles, rfl⟩

theorem neverReports_write (directory : Path) (file : DashboardFile) :
    Run.NeverReports (write directory file) :=
  Run.neverReports_bind (Run.neverReports_makeDirectories _) fun _ =>
    Run.neverReports_bind (Run.neverReports_writeFile _ _) fun _ =>
      Run.neverReports_bind (Run.neverReports_log _) fun _ => Run.neverReports_pure _

end DashboardFile

namespace Command

variable {identity : IdentitySource} {flavor : Flavor} {build : Build} {options : DashboardOptions}
  {code : Int}

theorem keepsFiles_template (flavor : Flavor) (options : DashboardOptions) :
    Run.KeepsFiles (template flavor options) := by
  rw [template]
  split
  · exact Run.keepsFiles_pure _
  · exact Run.keepsFiles_bind Run.keepsFiles_settings fun _ => Run.keepsFiles_pure _

/-- Once the settings have been read. -/
theorem of_settings_of_settings? {settings settings' : Settings} (hread : σ.settings? = some settings)
    (h : Run.settings.on σ = (.ok settings', σ')) : settings' = settings ∧ σ' = σ := by
  obtain ⟨houtcome, rfl⟩ := Run.of_settings h
  rw [Session.settingsOutcome_of_settings? hread] at houtcome
  obtain rfl := Except.ok.inj houtcome
  exact ⟨rfl, Session.withSettings_of_settings? hread⟩

theorem of_template {settings : Settings} {path : Text} (hread : σ.settings? = some settings)
    (h : (template flavor options).on σ = (.ok path, σ')) :
    path = (given? options.template).getD (standardTemplate flavor settings) ∧ σ' = σ := by
  rw [template] at h
  split at h
  · next path' heq =>
    obtain ⟨hpath, hσ⟩ := Run.eq_of_on_pure h
    rw [heq]
    exact ⟨hpath.symm, hσ.symm⟩
  · next heq =>
    obtain ⟨settings', σ₁, hsettings, hpure⟩ := Run.exists_of_on_bind h
    obtain ⟨rfl, rfl⟩ := of_settings_of_settings? hread hsettings
    obtain ⟨hpath, hσ⟩ := Run.eq_of_on_pure hpure
    rw [heq]
    exact ⟨hpath.symm, hσ.symm⟩

/-! ## Putting the dashboard where it goes -/

/-- Puts a dashboard where it is to go, as `emit` does; the outcome is what there is to be said about it. -/
def put (file : DashboardFile) (text : Text) (options : DashboardOptions) : Run (List Text) := do
  if options.dryRun then
    Run.print (text ++ ("\n" : Text))
    pure []
  else
    let path ← match given? options.output with
      | some output => do
        let path := Path.ofText output
        Run.makeDirectories path.parent
        Run.writeFile path file.contents
        pure path
      | none => do
        let settings ← Run.settings
        file.write (.ofText settings.outputDirectory)
    pure [("Dashboard written to " : Text) ++ path.toText]

theorem forM_singleton {α : Type} (a : α) (f : α → Run Unit) : [a].forM f = f a := bind_pure_unit

theorem emit_eq (file : DashboardFile) (text : Text) (options : DashboardOptions) :
    emit file text options = put file text options >>= fun notices => notices.forM Run.saySuccess := by
  rw [emit, put]
  split
  · rw [bind_assoc]
    exact bind_pure_unit.symm
  · cases given? options.output <;> simp only [bind_assoc, pure_bind, forM_singleton]

/-- In a dry run the text is printed, and there is nothing to be said about it. -/
theorem of_put_of_dryRun (hdry : options.dryRun = true) {file : DashboardFile} {text : Text}
    {notices : List Text} (h : (put file text options).on σ = (.ok notices, σ')) :
    notices = [] ∧ σ' = σ.printed (text ++ ("\n" : Text)) := by
  rw [put, if_pos hdry] at h
  obtain ⟨⟨⟩, σ₁, hprint, hpure⟩ := Run.exists_of_on_bind h
  obtain ⟨hnotices, rfl⟩ := Run.eq_of_on_pure hpure
  exact ⟨hnotices.symm, (Run.print_on_iff.1 hprint).2⟩

/-- Where the file of a dashboard has gone. -/
theorem of_put {settings : Settings} {bytes : ByteArray} {text : Text} {notices : List Text}
    (hdry : ¬ options.dryRun = true) (hread : σ.settings? = some settings)
    (h : (put ⟨flavor.path options.endpoint, bytes⟩ text options).on σ = (.ok notices, σ')) :
    ∃ files l, σ.files.put σ.home (options.target flavor settings) bytes = .ok files ∧
      σ' = (σ.withFiles files).withLog l := by
  rw [put, if_neg hdry] at h
  dsimp only at h
  split at h
  · next output heq =>
    obtain ⟨files, hfiles, hpure⟩ := Run.exists_of_put h
    obtain ⟨-, rfl⟩ := Run.eq_of_on_pure hpure
    rw [DashboardOptions.target, heq]
    exact ⟨files, σ.log, hfiles, rfl⟩
  · next heq =>
    obtain ⟨settings', σ₁, hsettings, hrest⟩ := Run.exists_of_on_bind h
    obtain ⟨rfl, rfl⟩ := of_settings_of_settings? hread hsettings
    obtain ⟨path, σ₂, hwrite, hpure⟩ := Run.exists_of_on_bind hrest
    obtain ⟨rfl, files, l, hfiles, rfl⟩ := DashboardFile.of_write hwrite
    obtain ⟨-, rfl⟩ := Run.eq_of_on_pure hpure
    rw [DashboardOptions.target, heq]
    exact ⟨files, l, hfiles, rfl⟩

/-- Putting a dashboard gives no warnings, and leaves the platform as it is. -/
theorem warnings_and_platform_of_put {settings : Settings} {bytes : ByteArray} {text : Text}
    {notices : List Text} (hread : σ.settings? = some settings)
    (h : (put ⟨flavor.path options.endpoint, bytes⟩ text options).on σ = (.ok notices, σ')) :
    σ'.warnings = σ.warnings ∧ σ'.platform = σ.platform := by
  by_cases hdry : options.dryRun = true
  · rw [(of_put_of_dryRun hdry h).2]
    exact ⟨rfl, rfl⟩
  · obtain ⟨files, l, -, rfl⟩ := of_put hdry hread h
    exact ⟨rfl, rfl⟩

theorem neverReports_emit (file : DashboardFile) (text : Text) (options : DashboardOptions) :
    Run.NeverReports (emit file text options) := by
  rw [emit]
  split
  · exact Run.neverReports_print _
  · dsimp only
    split
    · exact Run.neverReports_bind (Run.neverReports_makeDirectories _) fun _ =>
        Run.neverReports_bind (Run.neverReports_writeFile _ _) fun _ => Run.neverReports_say _
    · exact Run.neverReports_bind Run.neverReports_settings fun _ =>
        Run.neverReports_bind (DashboardFile.neverReports_write _ _) fun _ => Run.neverReports_say _

/-! ## Warnings -/

/-- The exit code of a command that has these warnings. -/
def codeOf (warnings : List Text) : Int := if warnings.isEmpty then 0 else 1

theorem sayWarnings_on_iff {warnings : List Text} :
    (sayWarnings warnings).on σ = (.ok code, σ') ↔
      code = codeOf warnings ∧
        ∃ lines, List.Forall₂ (fun w => σ.platform.Prints (warningLine w)) warnings lines ∧
          σ' = σ.printed lines.flatten := by
  constructor
  · intro h
    obtain ⟨⟨⟩, σ₁, hsay, hpure⟩ := Run.exists_of_on_bind h
    obtain ⟨hcode, rfl⟩ := Run.eq_of_on_pure hpure
    exact ⟨hcode.symm, Run.forM_say_on_iff.1 hsay⟩
  · rintro ⟨rfl, hlines⟩
    exact (Run.on_bind_ok (Run.forM_say_on_iff.2 hlines)).trans rfl

/-- The warnings of the synthesizer in use. -/
theorem of_sayWarnings_get
    (h : (get >>= fun s : Session => sayWarnings s.warnings).on σ = (.ok code, σ')) :
    code = codeOf σ.warnings ∧
      ∃ lines, List.Forall₂ (fun w => σ.platform.Prints (warningLine w)) σ.warnings lines ∧
        σ' = σ.printed lines.flatten := by
  have hsay : (sayWarnings σ.warnings).on σ = (.ok code, σ') := h
  exact sayWarnings_on_iff.1 hsay

/-- Says what has been done, and then gives the warnings of the synthesizer in use. -/
def tell (notices : List Text) : Run Int := do
  notices.forM Run.saySuccess
  sayWarnings (← get).warnings

/-- What a command that ends by telling adds to standard output, and its code. -/
theorem tell_on_iff {notices : List Text} :
    (tell notices).on σ = (.ok code, σ') ↔
      code = codeOf σ.warnings ∧ ∃ front lines,
        List.Forall₂ (fun notice => σ.platform.Prints (successLine notice)) notices front ∧
        List.Forall₂ (fun w => σ.platform.Prints (warningLine w)) σ.warnings lines ∧
        σ' = σ.printed (front.flatten ++ lines.flatten) := by
  constructor
  · intro h
    obtain ⟨⟨⟩, σ₁, hsay, hwarn⟩ := Run.exists_of_on_bind h
    obtain ⟨front, hfront, rfl⟩ := Run.forM_say_on_iff.1 hsay
    obtain ⟨hcode, lines, hlines, rfl⟩ := of_sayWarnings_get hwarn
    exact ⟨hcode, front, lines, hfront, hlines, σ.printed_printed _ _⟩
  · rintro ⟨hcode, front, lines, hfront, hlines, rfl⟩
    have hsay : (notices.forM Run.saySuccess).on σ = (.ok (), σ.printed front.flatten) :=
      Run.forM_say_on_iff.2 ⟨front, hfront, rfl⟩
    refine (Run.on_bind_ok hsay).trans (sayWarnings_on_iff.2 ⟨hcode, lines, hlines, ?_⟩)
    exact (σ.printed_printed _ _).symm

theorem keepsFiles_sayWarnings (warnings : List Text) : Run.KeepsFiles (sayWarnings warnings) :=
  Run.keepsFiles_bind (Run.keepsFiles_forM (fun _ => (Run.printsOnly_say _).keepsFiles) warnings) fun _ =>
    Run.keepsFiles_pure _

theorem neverReports_sayWarnings (warnings : List Text) : Run.NeverReports (sayWarnings warnings) :=
  Run.neverReports_bind (Run.neverReports_forM (fun _ => Run.neverReports_say _) warnings) fun _ =>
    Run.neverReports_pure _

/-! ## The whole -/

theorem reportsFirst_makeDashboard :
    Run.ReportsFirst (makeDashboard identity flavor build options) := by
  refine Run.reportsFirst_bind (Synthesizer.keepsFiles_make identity) fun s => ?_
  refine Run.reportsFirst_bind (keepsFiles_template flavor options) fun path => ?_
  refine Run.reportsFirst_bind (Synthesizer.keepsFiles_dashboard flavor) fun text => ?_
  refine Run.reportsFirst_bind (DashboardFile.keepsFiles_ofDashboard _ _ _) fun file => ?_
  refine Run.NeverReports.reportsFirst ?_
  exact Run.neverReports_bind (neverReports_emit _ _ _) fun _ =>
    Run.neverReports_bind Run.neverReports_get fun _ => neverReports_sayWarnings _

theorem keepsFiles_makeDashboard_of_dryRun (hdry : options.dryRun = true) :
    Run.KeepsFiles (makeDashboard identity flavor build options) := by
  refine Run.keepsFiles_bind (Synthesizer.keepsFiles_make identity) fun s => ?_
  refine Run.keepsFiles_bind (keepsFiles_template flavor options) fun path => ?_
  refine Run.keepsFiles_bind (Synthesizer.keepsFiles_dashboard flavor) fun text => ?_
  refine Run.keepsFiles_bind (DashboardFile.keepsFiles_ofDashboard _ _ _) fun file => ?_
  refine Run.keepsFiles_bind ?_ fun _ =>
    Run.keepsFiles_bind Run.keepsFiles_get fun _ => keepsFiles_sayWarnings _
  rw [emit, if_pos hdry]
  exact (Run.printsOnly_print _).keepsFiles

/-- The warnings about the decisions that are skipped in making a dashboard. -/
def warningsOf (identity : IdentitySource) (flavor : Flavor) (build : Build)
    (options : DashboardOptions) (settings : Settings) : List Text :=
  (settings.synthesizer identity).skipWarnings (options.request flavor settings build) flavor.decisions

/-- Makes the dashboard of a build, as `makeDashboard` does, up to where it is told. -/
def putDashboard (identity : IdentitySource) (flavor : Flavor) (build : Build)
    (options : DashboardOptions) : Run (List Text) := do
  let synthesizer ← Synthesizer.make identity
  let text ← synthesizer.dashboard flavor
    { template := ← template flavor options
      name := (given? options.name).getD (dashboardName (some build) options.endpoint)
      endpoint := options.endpoint
      build
      auditLink := options.auditLink }
  let file ← DashboardFile.ofDashboard flavor options.endpoint text
  put file text options

theorem makeDashboard_eq :
    makeDashboard identity flavor build options = putDashboard identity flavor build options >>= tell := by
  rw [makeDashboard, putDashboard]
  simp only [bind_assoc, emit_eq]
  rfl

/-- Up to the place where the dashboard goes. -/
theorem of_putDashboard {notices : List Text}
    (h : (putDashboard identity flavor build options).on σ = (.ok notices, σ')) :
    ∃ settings text bytes l, IsMade identity flavor build options σ settings text bytes ∧
      (put ⟨flavor.path options.endpoint, bytes⟩ text options).on
          ((σ.prepared settings).synthesized (warningsOf identity flavor build options settings) l) =
        (.ok notices, σ') := by
  obtain ⟨s, σ₁, hmake, hrest⟩ := Run.exists_of_on_bind h
  obtain ⟨settings, hsettings, rfl, rfl⟩ := Synthesizer.of_make hmake
  obtain ⟨path, σ₂, htemplate, hrest⟩ := Run.exists_of_on_bind hrest
  obtain ⟨rfl, rfl⟩ := of_template rfl htemplate
  obtain ⟨text, σ₃, hdashboard, hrest⟩ := Run.exists_of_on_bind hrest
  obtain ⟨houtcome, l, rfl⟩ := Synthesizer.of_dashboard hdashboard
  obtain ⟨file, σ₄, hfile, hput⟩ := Run.exists_of_on_bind hrest
  obtain ⟨bytes, hbytes, rfl, rfl⟩ := DashboardFile.of_ofDashboard hfile
  exact ⟨settings, text, bytes, l, ⟨hsettings, houtcome, hbytes⟩, hput⟩

/-- The warnings that are then given are those about the decisions that are skipped, and the platform is the
one there was. -/
theorem warnings_and_platform_of_putDashboard {notices : List Text}
    (h : (putDashboard identity flavor build options).on σ = (.ok notices, σ')) :
    (∃ settings, σ'.warnings = warningsOf identity flavor build options settings) ∧
      σ'.platform = σ.platform := by
  obtain ⟨settings, text, bytes, l, -, hput⟩ := of_putDashboard h
  obtain ⟨hwarnings, hplatform⟩ := warnings_and_platform_of_put rfl hput
  exact ⟨⟨settings, hwarnings⟩, hplatform⟩

/-- What a command that makes a dashboard has put, and what it tells then. -/
theorem of_makeDashboard
    (h : (makeDashboard identity flavor build options).on σ = (.ok code, σ')) :
    ∃ settings text bytes l notices σ₁, IsMade identity flavor build options σ settings text bytes ∧
      (put ⟨flavor.path options.endpoint, bytes⟩ text options).on
          ((σ.prepared settings).synthesized (warningsOf identity flavor build options settings) l) =
        (.ok notices, σ₁) ∧
      (tell notices).on σ₁ = (.ok code, σ') := by
  rw [makeDashboard_eq] at h
  obtain ⟨notices, σ₁, hput, htell⟩ := Run.exists_of_on_bind h
  obtain ⟨settings, text, bytes, l, hmade, hput⟩ := of_putDashboard hput
  exact ⟨settings, text, bytes, l, notices, σ₁, hmade, hput, htell⟩

/-- **A dry run.**  It prints the text, and behind it the warnings. -/
theorem of_makeDashboard_of_dryRun (hdry : options.dryRun = true)
    (h : (makeDashboard identity flavor build options).on σ = (.ok code, σ')) :
    ∃ settings text bytes lines, IsMade identity flavor build options σ settings text bytes ∧
      code = codeOf (warningsOf identity flavor build options settings) ∧
      List.Forall₂ (fun w => σ.platform.Prints (warningLine w))
        (warningsOf identity flavor build options settings) lines ∧
      σ'.stdout = σ.stdout ++ (text ++ ("\n" : Text)) ++ lines.flatten := by
  obtain ⟨settings, text, bytes, l, notices, σ₁, hmade, hput, htell⟩ := of_makeDashboard h
  obtain ⟨rfl, rfl⟩ := of_put_of_dryRun hdry hput
  obtain ⟨hcode, front, lines, hfront, hlines, rfl⟩ := tell_on_iff.1 htell
  cases hfront
  exact ⟨settings, text, bytes, lines, hmade, hcode, hlines, rfl⟩

/-- **A run that writes.**  It puts the bytes of the text under the path, and nothing else. -/
theorem of_makeDashboard_of_not_dryRun (hdry : ¬ options.dryRun = true)
    (h : (makeDashboard identity flavor build options).on σ = (.ok code, σ')) :
    ∃ settings text bytes, IsMade identity flavor build options σ settings text bytes ∧
      code = codeOf (warningsOf identity flavor build options settings) ∧
      σ.files.put σ.home (options.target flavor settings) bytes = .ok σ'.files := by
  obtain ⟨settings, text, bytes, l, notices, σ₁, hmade, hput, htell⟩ := of_makeDashboard h
  obtain ⟨files, l', hfiles, rfl⟩ := of_put hdry rfl hput
  obtain ⟨hcode, front, lines, -, -, rfl⟩ := tell_on_iff.1 htell
  exact ⟨settings, text, bytes, hmade, hcode, hfiles⟩

end Command
end DashboardSynthesis
