import DashboardSynthesis.Proofs.Command.EndpointFiles
import DashboardSynthesis.Proofs.Program.Ending
import DashboardSynthesis.Proofs.Synthesis.AuditLink

/-!
# Both dashboards at once, or one after the other

The dashboards of an endpoint are made by one command, or by one command for each of them.  The two ways
differ in who decides on the audit link if it is not asked for: at once, the settings do; one after the
other, there is none.  So the files come out the same exactly if the single commands are given the flag
as the settings have it, or the templates bring the link along (`bothWays_agree_iff`).  The exit codes agree
in any case.

The single command for the domain dashboard is run on what the one for the operational dashboard leaves.
It must not take the operational dashboard that has just been written for its template or its decisions
(`ReadsAlike`); it never takes it for the file of variables, since the names differ.
-/

namespace DashboardSynthesis

/-! ## The two ways -/

/-- The program succeeds at a command: it ends with 0 or 1. -/
def Succeeds (identity : IdentitySource) (command : Command) (σ : Session) (code : Int)
    (σ' : Session) : Prop :=
  ∃ arguments verbose, Invocation.read arguments = .ok ⟨verbose, some command⟩ ∧
    (code = 0 ∨ code = 1) ∧ (program identity arguments).on σ = (.ok (.exit code), σ')

/-- The identity that is drawn next. -/
def IdentitySource.next (source : IdentitySource) (σ : Session) : Identity :=
  ⟨source.id σ.idsDrawn, source.uid σ.uidsDrawn⟩

/-- The command for the domain dashboard alone: with decisions it is that of a decision model. -/
def EndpointOptions.domainCommand (options : EndpointOptions) (auditLink : Bool) : Command :=
  match given? options.decisions with
  | some file => .decision file (options.dashboard auditLink)
  | none => .rules (options.dashboard auditLink)

/-- The dashboards of an endpoint are made at once, and by one command after the other.  The identities
are the same both ways. -/
structure BothWays (options : EndpointOptions) (auditLink : Bool) (source first second : IdentitySource)
    (σ : Session) (code code₁ code₂ : Int) (τ τ₁ τ₂ : Session) : Prop where
  atOnce : Succeeds source (.endpoint options) σ code τ
  operational : Succeeds first (.operational (options.dashboard auditLink)) σ code₁ τ₁
  domain : Succeeds second (options.domainCommand auditLink) (σ.withFiles τ₁.files) code₂ τ₂
  firstIdentity : first.next σ = source.next σ
  secondIdentity : second.next σ = source.next σ.drawn

/-- The template of domain dashboards and the decisions are not affected by what has been written. -/
structure ReadsAlike (options : EndpointOptions) (settings : Settings) (σ : Session)
    (files : FileTree) : Prop where
  template : loadTemplate files σ.home settings.domainTemplate =
    loadTemplate σ.files σ.home settings.domainTemplate
  decisions : options.decisionsOutcome σ.platform files σ.home =
    options.decisionsOutcome σ.platform σ.files σ.home

section

variable {options : EndpointOptions} {auditLink : Bool} {source first second : IdentitySource}
  {σ τ τ₁ τ₂ : Session} {code code₁ code₂ : Int} {build : Build} {settings : Settings}
  {decisions : Option (List Decision)}

theorem EndpointOptions.single?_domainCommand
    (h : options.decisionsOutcome σ.platform σ.files σ.home = .ok decisions) :
    (options.domainCommand auditLink).single? σ =
      some (.ofDecisions decisions, options.dashboard auditLink) := by
  rw [decisionsOutcome] at h
  rw [domainCommand]
  split at h
  · next hgiven =>
    rw [hgiven, ← Except.ok.inj h]
    rfl
  · next file hgiven =>
    obtain ⟨ds, hload, rfl⟩ := exists_of_map_eq_ok h
    rw [hgiven]
    dsimp only
    rw [Command.single?, Command.decisions_of_loadOutcome rfl hload]
    rfl

theorem EndpointOptions.decisions_domainCommand :
    (options.domainCommand auditLink).decisions σ = (Command.endpoint options).decisions σ := by
  have hfile : (options.domainCommand auditLink).decisionFile? =
      (Command.endpoint options).decisionFile? := by
    rw [domainCommand, Command.decisionFile?.eq_def (Command.endpoint options)]
    dsimp only
    cases given? options.decisions <;> rfl
  rw [Command.decisions, Command.decisions, hfile]

theorem code_of_succeeds {identity : IdentitySource} {command : Command}
    (h : Succeeds identity command σ code τ) :
    code = if ∀ d ∈ command.decisions σ, d.isSupported Registry.standard = true then 0 else 1 := by
  obtain ⟨arguments, verbose, hread, hcode, hends⟩ := h
  obtain ⟨σ₀, hsetUp, hbody⟩ := of_program_of_succeeds hread hcode hends
  rw [← hsetUp.decisions]
  exact Command.of_body hbody

theorem EndpointOptions.target_dashboard (hdirectory : given? options.outputDirectory = none)
    (flavor : Flavor) :
    (options.dashboard auditLink).target flavor settings = options.target flavor settings := by
  rw [target, hdirectory]
  rfl

/-! ## What the two ways come to -/

/-- A dashboard of the endpoint, asked for with one flag and with another. -/
theorem EndpointOptions.text_eq_iff {flavor : Flavor} {flag flag' : Bool} {text text' : Text}
    (h : (settings.synthesizer source).outcome flavor
      ((options.dashboard flag).request flavor settings build) σ = .ok text)
    (h' : (settings.synthesizer source).outcome flavor
      ((options.dashboard flag').request flavor settings build) σ = .ok text') :
    text = text' ↔ flag = flag' ∨ (settings.synthesizer source).AuditLinkIsThere
      ((options.dashboard false).request flavor settings build) σ := by
  have hiff : ∀ {linked plain : Text},
      (settings.synthesizer source).outcome flavor
        ((options.dashboard true).request flavor settings build) σ = .ok linked →
      (settings.synthesizer source).outcome flavor
        ((options.dashboard false).request flavor settings build) σ = .ok plain →
      (linked = plain ↔ (settings.synthesizer source).AuditLinkIsThere
        ((options.dashboard false).request flavor settings build) σ) :=
    fun hlinked hplain => Synthesizer.text_eq_iff_auditLinkIsThere hlinked hplain
  by_cases hflag : flag = flag'
  · subst hflag
    simp [Except.ok.inj (h.symm.trans h')]
  · cases flag with
    | true =>
      obtain rfl : flag' = false := by simpa using hflag
      rw [hiff h h']
      simp
    | false =>
      obtain rfl : flag' = true := by simpa using hflag
      rw [eq_comm, hiff h' h]
      simp

namespace BothWays

/-- The exit code is the greater one of both. -/
theorem code_eq (h : BothWays options auditLink source first second σ code code₁ code₂ τ τ₁ τ₂)
    (hdecisions : options.decisionsOutcome σ.platform σ.files σ.home = .ok decisions)
    (hreads : ReadsAlike options settings σ τ₁.files) : code = max code₁ code₂ := by
  have hoperational : code₁ = 0 := by
    rw [code_of_succeeds h.operational, if_pos]
    exact fun d hd => absurd hd (by simp [Command.decisions, Command.decisionFile?])
  have hdecisions₂ : options.decisionsOutcome (σ.withFiles τ₁.files).platform
      (σ.withFiles τ₁.files).files (σ.withFiles τ₁.files).home = .ok decisions :=
    hreads.decisions.trans hdecisions
  have hsame : (Command.endpoint options).decisions (σ.withFiles τ₁.files) =
      (Command.endpoint options).decisions σ := by
    rw [Command.decisions_endpoint hdecisions, Command.decisions_endpoint hdecisions₂]
  rw [code_of_succeeds h.atOnce, code_of_succeeds h.domain, hoperational,
    EndpointOptions.decisions_domainCommand, hsame]
  split <;> rfl

/-- The single command for the domain dashboard reads the settings that the others read. -/
theorem settings_domain (hplain : .scalar '/' ∉ options.endpoint) {bytes : ByteArray}
    (hput : σ.files.put σ.home (options.target .operational settings) bytes = .ok τ₁.files) :
    (σ.withFiles τ₁.files).settingsOutcome = σ.settingsOutcome := by
  obtain ⟨place, hresolve, hfile⟩ := FileTree.fileIsPut_of_put hput
  have hlast :=
    (EndpointOptions.endsWith_target hplain .operational settings).getLast?_of_resolve hresolve
  exact Session.settingsOutcome_congr rfl rfl
    (variablesOutcome_of_fileIsPut (Flavor.fileName_ne (by decide) _ _) hfile hlast)

/-! ### What each of the commands puts -/

theorem exists_atOnce (h : BothWays options auditLink source first second σ code code₁ code₂ τ τ₁ τ₂)
    (hflag : options.auditLink = false) (hbuild : options.build.build = .ok build)
    (hsettings : σ.settingsOutcome = .ok settings)
    (hdecisions : options.decisionsOutcome σ.platform σ.files σ.home = .ok decisions) :
    ∃ text₁ bytes₁ text₂ bytes₂ files,
      IsMade source .operational build (options.dashboard settings.auditLink) σ settings text₁ bytes₁ ∧
      IsMade source (.ofDecisions decisions) build (options.dashboard settings.auditLink) σ.drawn
        settings text₂ bytes₂ ∧
      σ.files.put σ.home (options.target .operational settings) bytes₁ = .ok files ∧
      files.put σ.home (options.target (.ofDecisions decisions) settings) bytes₂ = .ok τ.files := by
  obtain ⟨arguments, verbose, hread, hcode, hends⟩ := h.atOnce
  obtain ⟨build', decisions', settings', text₁, bytes₁, text₂, bytes₂, files, hbuild', hdecisions',
    hmade₁, hmade₂, hput₁, hput₂⟩ := of_program_endpoint hread hcode hends
  obtain rfl := Except.ok.inj (hbuild.symm.trans hbuild')
  obtain rfl := Except.ok.inj (hdecisions.symm.trans hdecisions')
  obtain rfl := Except.ok.inj (hsettings.symm.trans hmade₁.settingsAre)
  rw [EndpointOptions.getsAuditLink, hflag, Bool.false_or] at hmade₁ hmade₂
  exact ⟨text₁, bytes₁, text₂, bytes₂, files, hmade₁, hmade₂, hput₁, hput₂⟩

theorem exists_operational
    (h : BothWays options auditLink source first second σ code code₁ code₂ τ τ₁ τ₂)
    (hdirectory : given? options.outputDirectory = none) (hbuild : options.build.build = .ok build)
    (hsettings : σ.settingsOutcome = .ok settings) :
    ∃ text bytes,
      IsMade source .operational build (options.dashboard auditLink) σ settings text bytes ∧
      σ.files.put σ.home (options.target .operational settings) bytes = .ok τ₁.files := by
  obtain ⟨arguments, verbose, hread, hcode, hends⟩ := h.operational
  obtain ⟨build', settings', text, bytes, hbuild', hmade, hput⟩ :=
    of_program_single hread rfl (by simp [EndpointOptions.dashboard]) hcode hends
  obtain rfl := Except.ok.inj (hbuild.symm.trans hbuild')
  obtain rfl := Except.ok.inj (hsettings.symm.trans hmade.settingsAre)
  rw [EndpointOptions.target_dashboard hdirectory] at hput
  exact ⟨text, bytes, hmade.transfer hsettings rfl (congrArg Identity.id h.firstIdentity).symm
    (congrArg Identity.uid h.firstIdentity).symm, hput⟩

theorem exists_domain (h : BothWays options auditLink source first second σ code code₁ code₂ τ τ₁ τ₂)
    (hdirectory : given? options.outputDirectory = none) (hplain : .scalar '/' ∉ options.endpoint)
    (hbuild : options.build.build = .ok build) (hsettings : σ.settingsOutcome = .ok settings)
    (hdecisions : options.decisionsOutcome σ.platform σ.files σ.home = .ok decisions)
    (hreads : ReadsAlike options settings σ τ₁.files) :
    ∃ text bytes,
      IsMade source (.ofDecisions decisions) build (options.dashboard auditLink) σ.drawn settings text
        bytes ∧
      τ₁.files.put σ.home (options.target (.ofDecisions decisions) settings) bytes = .ok τ₂.files := by
  obtain ⟨_, _, -, hput₁⟩ := h.exists_operational hdirectory hbuild hsettings
  obtain ⟨arguments, verbose, hread, hcode, hends⟩ := h.domain
  have hdecisions' : options.decisionsOutcome (σ.withFiles τ₁.files).platform
      (σ.withFiles τ₁.files).files (σ.withFiles τ₁.files).home = .ok decisions :=
    hreads.decisions.trans hdecisions
  have hsingle : (options.domainCommand auditLink).single? (σ.withFiles τ₁.files) =
      some (.ofDecisions decisions, options.dashboard auditLink) :=
    EndpointOptions.single?_domainCommand hdecisions'
  obtain ⟨build', settings', text, bytes, hbuild', hmade, hput⟩ :=
    of_program_single hread hsingle (by simp [EndpointOptions.dashboard]) hcode hends
  obtain rfl := Except.ok.inj (hbuild.symm.trans hbuild')
  have hsettings' := (settings_domain hplain hput₁).symm.trans hmade.settingsAre
  obtain rfl := Except.ok.inj (hsettings.symm.trans hsettings')
  rw [EndpointOptions.target_dashboard hdirectory] at hput
  refine ⟨text, bytes, hmade.transfer hsettings ?_ (congrArg Identity.id h.secondIdentity).symm
    (congrArg Identity.uid h.secondIdentity).symm, hput⟩
  have htemplate : ((options.dashboard auditLink).request (.ofDecisions decisions) settings
      build).template = settings.domainTemplate := by
    cases decisions <;> rfl
  rw [htemplate]
  exact hreads.template.symm

/-- Reading is not affected if the paths have other last names than the operational dashboard. -/
theorem readsAlike (h : BothWays options auditLink source first second σ code code₁ code₂ τ τ₁ τ₂)
    (hdirectory : given? options.outputDirectory = none) (hplain : .scalar '/' ∉ options.endpoint)
    (hbuild : options.build.build = .ok build) (hsettings : σ.settingsOutcome = .ok settings)
    (hdecisions : options.decisionsOutcome σ.platform σ.files σ.home = .ok decisions)
    (htemplate : LeadsBeside σ.files σ.home (Flavor.operational.fileName options.endpoint)
      (.ofText settings.domainTemplate))
    (hfile : ∀ file, given? options.decisions = some file →
      LeadsBeside σ.files σ.home (Flavor.operational.fileName options.endpoint) (.ofText file)) :
    ReadsAlike options settings σ τ₁.files := by
  obtain ⟨_, _, -, hput⟩ := h.exists_operational hdirectory hbuild hsettings
  obtain ⟨place, hresolve, hisPut⟩ := FileTree.fileIsPut_of_put hput
  have hplace :=
    (EndpointOptions.endsWith_target hplain .operational settings).getLast?_of_resolve hresolve
  refine ⟨loadTemplate_of_fileIsPut htemplate hisPut hplace, ?_⟩
  rw [EndpointOptions.decisionsOutcome] at hdecisions
  rw [EndpointOptions.decisionsOutcome, EndpointOptions.decisionsOutcome]
  cases hgiven : given? options.decisions with
  | none => rfl
  | some file =>
    rw [hgiven] at hdecisions
    obtain ⟨ds, hload, -⟩ := exists_of_map_eq_ok hdecisions
    dsimp only
    rw [loadOutcome_of_fileIsPut (hfile file hgiven) hisPut hplace hload, hload]

/-! ### The files -/

/-- The two ways leave the same tree exactly if the flag is as the settings have it, or both templates have
the link. -/
theorem files_eq_iff (h : BothWays options auditLink source first second σ code code₁ code₂ τ τ₁ τ₂)
    (hflag : options.auditLink = false) (hdirectory : given? options.outputDirectory = none)
    (hplain : .scalar '/' ∉ options.endpoint) (hbuild : options.build.build = .ok build)
    (hsettings : σ.settingsOutcome = .ok settings)
    (hdecisions : options.decisionsOutcome σ.platform σ.files σ.home = .ok decisions)
    (hreads : ReadsAlike options settings σ τ₁.files) :
    τ.files = τ₂.files ↔ settings.auditLink = auditLink ∨
      ((settings.synthesizer source).AuditLinkIsThere
          ((options.dashboard false).request .operational settings build) σ ∧
        (settings.synthesizer source).AuditLinkIsThere
          ((options.dashboard false).request (.ofDecisions decisions) settings build) σ.drawn) := by
  obtain ⟨text₁, bytes₁, text₂, bytes₂, files, hmade₁, hmade₂, hput₁, hput₂⟩ :=
    h.exists_atOnce hflag hbuild hsettings hdecisions
  obtain ⟨text₁', bytes₁', hmade₁', hput₁'⟩ := h.exists_operational hdirectory hbuild hsettings
  obtain ⟨text₂', bytes₂', hmade₂', hput₂'⟩ :=
    h.exists_domain hdirectory hplain hbuild hsettings hdecisions hreads
  rw [FileTree.put_put_eq_iff (EndpointOptions.endsWith_target hplain _ _)
      (EndpointOptions.endsWith_target hplain _ _) (Flavor.fileName_ofDecisions_ne _ _) hput₁ hput₂
      hput₁' hput₂',
    hmade₁.bytes_eq_iff hmade₁', hmade₂.bytes_eq_iff hmade₂',
    EndpointOptions.text_eq_iff hmade₁.textIs hmade₁'.textIs,
    EndpointOptions.text_eq_iff hmade₂.textIs hmade₂'.textIs, ← or_and_left]

end BothWays

/-- **Both ways.**  The exit code of the one way is the greater one of the other, and they leave the same
files exactly if the flag is as the settings have it, or both templates have the audit link already. -/
theorem bothWays_agree_iff
    (h : BothWays options auditLink source first second σ code code₁ code₂ τ τ₁ τ₂)
    (hflag : options.auditLink = false) (hdirectory : given? options.outputDirectory = none)
    (hplain : .scalar '/' ∉ options.endpoint) (hbuild : options.build.build = .ok build)
    (hsettings : σ.settingsOutcome = .ok settings)
    (hdecisions : options.decisionsOutcome σ.platform σ.files σ.home = .ok decisions)
    (hreads : ReadsAlike options settings σ τ₁.files) :
    code = max code₁ code₂ ∧
      (τ.files = τ₂.files ↔ settings.auditLink = auditLink ∨
        ((settings.synthesizer source).AuditLinkIsThere
            ((options.dashboard false).request .operational settings build) σ ∧
          (settings.synthesizer source).AuditLinkIsThere
            ((options.dashboard false).request (.ofDecisions decisions) settings build) σ.drawn)) :=
  ⟨h.code_eq hdecisions hreads, h.files_eq_iff hflag hdirectory hplain hbuild hsettings hdecisions hreads⟩

end

/-! ### An endpoint under settings without the link, and with it -/

/-- What the program leaves. -/
def Session.after (σ : Session) (identity : IdentitySource) (arguments : List Text) : Session :=
  ((program identity arguments).on σ).2

theorem succeeds_after {identity : IdentitySource} {arguments : List Text} {verbose : Bool}
    {command : Command} {σ : Session} {code : Int}
    (hread : Invocation.read arguments = .ok ⟨verbose, some command⟩) (hcode : code = 0 ∨ code = 1)
    (hends : ((program identity arguments).on σ).1.toOption = some (.exit code)) :
    Succeeds identity command σ code (σ.after identity arguments) :=
  ⟨arguments, verbose, hread, hcode, Prod.ext (eq_ok_of_toOption_eq_some hends) rfl⟩

/-- The file `t` is the template of both dashboards, and the file `d` holds a decision that declares no
type. -/
def endpointSession (auditLink : Text) : Session :=
  { files := ⟨[(["t"], .file "\x7b\x7d".toUTF8),
      (["d"], .file "decisions: [\x7bname: x\x7d]".toUTF8)]⟩
    home := []
    environment := [("DECISIONDASH_OPERATIONAL_TEMPLATE", "t"), ("DECISIONDASH_DOMAIN_TEMPLATE", "t"),
      ("DECISIONDASH_GENERATE_AUDIT_LINK", auditLink)] }

/-- The settings in that session. -/
def endpointSettings (auditLink : Bool) : Settings :=
  { operationalTemplate := "t", domainTemplate := "t", auditLink }

/-- What the command for both dashboards is given. -/
def endpointOptions (decisions : Option Text) : EndpointOptions :=
  { endpoint := "e", build := ⟨some "a", some "1"⟩, decisions }

/-- A source of one identity after the other. -/
def countingSource : IdentitySource := ⟨fun n => 7 + n, fun _ => "u"⟩

/-- The session once the operational dashboard has been made. -/
def operationalSession (auditLink : Text) : Session :=
  (endpointSession auditLink).after (.fixed ⟨7, "u"⟩) ["operational", "e", "-a", "a", "--version", "1"]

theorem leadsBeside_endpointSession (auditLink : Text) {name : Text} (hname : name = "t" ∨ name = "d") :
    LeadsBeside (endpointSession auditLink).files [] (Flavor.operational.fileName "e") (.ofText name) := by
  rcases hname with rfl | rfl
  · exact ⟨⟨["t"], rfl⟩, "t", ⟨rfl, by decide⟩, by decide⟩
  · exact ⟨⟨["d"], rfl⟩, "d", ⟨rfl, by decide⟩, by decide⟩

theorem read_operational : Invocation.read ["operational", "e", "-a", "a", "--version", "1"] =
    .ok ⟨false, some (.operational ((endpointOptions none).dashboard false))⟩ :=
  eq_ok_of_toOption_eq_some (by decide +kernel)

/-- The settings leave the link out, and a decision is skipped. -/
theorem bothWays_unlinked : BothWays (endpointOptions (some "d")) false countingSource
    (.fixed ⟨7, "u"⟩) (.fixed ⟨8, "u"⟩) (endpointSession "false") 1 0 1
    ((endpointSession "false").after countingSource
      ["endpoint", "e", "-a", "a", "--version", "1", "-d", "d"])
    (operationalSession "false")
    (((endpointSession "false").withFiles (operationalSession "false").files).after (.fixed ⟨8, "u"⟩)
      ["decision", "e", "-a", "a", "--version", "1", "-d", "d"]) := by
  have hatOnce : Invocation.read ["endpoint", "e", "-a", "a", "--version", "1", "-d", "d"] =
      .ok ⟨false, some (.endpoint (endpointOptions (some "d")))⟩ :=
    eq_ok_of_toOption_eq_some (by decide +kernel)
  have hdomain : Invocation.read ["decision", "e", "-a", "a", "--version", "1", "-d", "d"] =
      .ok ⟨false, some ((endpointOptions (some "d")).domainCommand false)⟩ :=
    eq_ok_of_toOption_eq_some (by decide +kernel)
  constructor
  case atOnce => exact succeeds_after hatOnce (.inr rfl) (by decide +kernel)
  case operational => exact succeeds_after read_operational (.inl rfl) (by decide +kernel)
  case domain => exact succeeds_after hdomain (.inr rfl) (by decide +kernel)
  case firstIdentity => rfl
  case secondIdentity => rfl

theorem bothWays_agree_iff_unlinked : ∃ code code₁ code₂ τ τ₁ τ₂,
    BothWays (endpointOptions (some "d")) false countingSource (.fixed ⟨7, "u"⟩) (.fixed ⟨8, "u"⟩)
      (endpointSession "false") code code₁ code₂ τ τ₁ τ₂ ∧
      code = max code₁ code₂ ∧ τ.files = τ₂.files := by
  have h := bothWays_unlinked
  have hsettings : (endpointSession "false").settingsOutcome = .ok (endpointSettings false) :=
    eq_ok_of_toOption_eq_some (by decide +kernel)
  obtain ⟨decisions, hdecisions⟩ : ∃ decisions, (endpointOptions (some "d")).decisionsOutcome
      (endpointSession "false").platform (endpointSession "false").files (endpointSession "false").home =
        .ok decisions := exists_eq_ok_of_isOk (by decide +kernel)
  have hreads := h.readsAlike rfl (by decide) rfl hsettings hdecisions
    (leadsBeside_endpointSession "false" (.inl rfl)) fun file hfile =>
      leadsBeside_endpointSession "false" (.inr (Option.some_inj.1 hfile).symm)
  obtain ⟨hcode, hfiles⟩ := bothWays_agree_iff h rfl rfl (by decide) rfl hsettings hdecisions hreads
  exact ⟨_, _, _, _, _, _, h, hcode, hfiles.2 (.inl rfl)⟩

/-- The settings have the link, and there are no decisions. -/
theorem bothWays_linked : BothWays (endpointOptions none) false countingSource
    (.fixed ⟨7, "u"⟩) (.fixed ⟨8, "u"⟩) (endpointSession "true") 0 0 0
    ((endpointSession "true").after countingSource ["endpoint", "e", "-a", "a", "--version", "1"])
    (operationalSession "true")
    (((endpointSession "true").withFiles (operationalSession "true").files).after (.fixed ⟨8, "u"⟩)
      ["rules", "e", "-a", "a", "--version", "1"]) := by
  have hatOnce : Invocation.read ["endpoint", "e", "-a", "a", "--version", "1"] =
      .ok ⟨false, some (.endpoint (endpointOptions none))⟩ :=
    eq_ok_of_toOption_eq_some (by decide +kernel)
  have hdomain : Invocation.read ["rules", "e", "-a", "a", "--version", "1"] =
      .ok ⟨false, some ((endpointOptions none).domainCommand false)⟩ :=
    eq_ok_of_toOption_eq_some (by decide +kernel)
  constructor
  case atOnce => exact succeeds_after hatOnce (.inl rfl) (by decide +kernel)
  case operational => exact succeeds_after read_operational (.inl rfl) (by decide +kernel)
  case domain => exact succeeds_after hdomain (.inl rfl) (by decide +kernel)
  case firstIdentity => rfl
  case secondIdentity => rfl

/-- An empty dashboard does not have the link. -/
theorem not_auditLinkIsThere : ¬ ((endpointSettings true).synthesizer countingSource).AuditLinkIsThere
    (((endpointOptions none).dashboard false).request .operational (endpointSettings true) ⟨"a", "1"⟩)
    (endpointSession "true") := by
  rintro ⟨template, parsed, hload, hparse, others, hlinks, -⟩
  have htemplate : loadTemplate (endpointSession "true").files (endpointSession "true").home "t" =
      .ok "\x7b\x7d" := eq_ok_of_toOption_eq_some (by decide +kernel)
  obtain rfl := Except.ok.inj (htemplate.symm.trans hload)
  have hempty : (Document.parse (((endpointSettings true).synthesizer countingSource).customized
      (((endpointOptions none).dashboard false).request .operational (endpointSettings true) ⟨"a", "1"⟩)
      (endpointSession "true") "\x7b\x7d")).toOption.map (·.links.length) = some 0 := by decide +kernel
  rw [hparse] at hempty
  have hlength : parsed.links.length = 0 := Option.some_inj.1 hempty
  rw [hlinks, List.length_append] at hlength
  exact absurd hlength (Nat.succ_ne_zero _)

/-- Where the settings have the link, the files differ. -/
theorem not_bothWays_agree_linked : ∃ code code₁ code₂ τ τ₁ τ₂,
    BothWays (endpointOptions none) false countingSource (.fixed ⟨7, "u"⟩) (.fixed ⟨8, "u"⟩)
      (endpointSession "true") code code₁ code₂ τ τ₁ τ₂ ∧ ¬ τ.files = τ₂.files := by
  have h := bothWays_linked
  have hsettings : (endpointSession "true").settingsOutcome = .ok (endpointSettings true) :=
    eq_ok_of_toOption_eq_some (by decide +kernel)
  have hreads := h.readsAlike rfl (by decide) rfl hsettings rfl
    (leadsBeside_endpointSession "true" (.inl rfl)) fun file hfile =>
      absurd hfile (by simp [endpointOptions, given?])
  refine ⟨_, _, _, _, _, _, h, ?_⟩
  rw [h.files_eq_iff rfl rfl (by decide) rfl hsettings rfl hreads]
  rintro (haudit | ⟨hthere, -⟩)
  · exact absurd haudit (by decide)
  · exact not_auditLinkIsThere hthere

end DashboardSynthesis
