import DashboardSynthesis.Proofs.Program.ExitCodes

/-!
# Dry runs

A dry run prints the dashboard as it is, so that other programs can read it from standard output, and the
text that it prints is the one that the same command writes.  But warnings go to standard output as well:
behind the text there is at least one line for each decision that is skipped.  So what a dry run prints is
fit for a pipe exactly if it ends with 0 (`dryRun_isPipeable_iff`).
-/

namespace DashboardSynthesis

/-! ## Messages on the console -/

/-- Of a message that is printed something is printed. -/
theorem Platform.Prints.ne_nil {platform : Platform} {message t : Text} (h : platform.Prints message t) :
    t ≠ [] := by
  obtain ⟨body, rfl⟩ := platform.console.endsLine h.1
  exact List.append_ne_nil_of_right_ne_nil _ (by decide)

/-- Nothing is printed exactly if there is nothing to warn of. -/
theorem flatten_eq_nil_iff {platform : Platform} {warnings lines : List Text}
    (h : List.Forall₂ (fun w => platform.Prints (warningLine w)) warnings lines) :
    lines.flatten = [] ↔ warnings = [] := by
  cases h with
  | nil => simp
  | cons hline _ =>
    have hne := hline.ne_nil
    simp [hne]

/-! ## What is printed -/

namespace Command

/-- The command with its dry run switched off. -/
def withoutDryRun : Command → Command
  | .operational options => .operational { options with dryRun := false }
  | .decision file options => .decision file { options with dryRun := false }
  | .rules options => .rules { options with dryRun := false }
  | command => command

theorem codeOf_eq_zero_iff (warnings : List Text) : codeOf warnings = 0 ↔ warnings = [] := by
  rw [codeOf]
  cases warnings <;> simp

end Command

/-- A dry run has printed the text of its dashboard, a line break and a rest; and where the same command is
run without the dry run and succeeds, it has written the bytes of this text. -/
def PrintsWhatIsWritten (identity : IdentitySource) (command : Command) (flavor : Flavor)
    (options : DashboardOptions) (σ σ' : Session) (rest : Text) : Prop :=
  ∃ text bytes, options.text identity flavor σ = .ok text ∧ text.encode? = some bytes ∧
    σ'.stdout = σ.stdout ++ (text ++ ("\n" : Text)) ++ rest ∧
    ∀ arguments verbose, Invocation.read arguments = .ok ⟨verbose, some command.withoutDryRun⟩ →
      ∀ code ∈ [(0 : Int), 1], ∀ τ, (program identity arguments).on σ = (.ok (.exit code), τ) →
        ∃ settings place, σ.settingsOutcome = .ok settings ∧
          τ.files.resolve σ.home (options.target flavor settings) = .ok place ∧
          τ.files.get? place = some (.file bytes)

/-- There is nothing on standard output but the text that is written, and a line break. -/
def IsPipeable (identity : IdentitySource) (command : Command) (flavor : Flavor)
    (options : DashboardOptions) (σ σ' : Session) : Prop :=
  PrintsWhatIsWritten identity command flavor options σ σ' []

variable {σ σ' τ : Session} {identity : IdentitySource} {arguments : List Text} {verbose : Bool}
  {command : Command} {flavor : Flavor} {options : DashboardOptions} {code : Int}

/-- **What a dry run prints.**  Behind the text there are lines exactly if the code is not 0. -/
theorem stdout_of_dryRun (hread : Invocation.read arguments = .ok ⟨verbose, some command⟩)
    (hsingle : command.single? σ = some (flavor, options)) (hdry : options.dryRun = true)
    (hcode : code = 0 ∨ code = 1)
    (h : (program identity arguments).on σ = (.ok (.exit code), σ')) :
    ∃ text bytes rest, options.text identity flavor σ = .ok text ∧ text.encode? = some bytes ∧
      σ'.stdout = σ.stdout ++ (text ++ ("\n" : Text)) ++ rest ∧ (rest = [] ↔ code = 0) := by
  obtain ⟨σ₀, hsetUp, hbody⟩ := of_program_of_succeeds hread hcode h
  rw [← hsetUp.single?] at hsingle
  obtain ⟨build, l, hbuild, -, hmake⟩ := Command.of_body_single hsingle hbody
  obtain ⟨settings, text, bytes, lines, hmade, rfl, hlines, hstdout⟩ :=
    Command.of_makeDashboard_of_dryRun hdry hmake
  have hmade := (hsetUp.withLog l).isMade hmade
  refine ⟨text, bytes, lines.flatten, text_of_isMade hbuild hmade, hmade.bytesAre, ?_, ?_⟩
  · rw [hstdout, Session.withLog_stdout, hsetUp.stdout]
  · rw [flatten_eq_nil_iff hlines, Command.codeOf_eq_zero_iff]

/-- The same command without the dry run makes the same dashboard. -/
theorem single?_withoutDryRun (hsingle : command.single? σ = some (flavor, options)) :
    command.withoutDryRun.single? σ = some (flavor, { options with dryRun := false }) := by
  cases command with
  | operational | decision | rules =>
    obtain ⟨rfl, rfl⟩ := Prod.mk.inj (Option.some_inj.1 hsingle)
    rfl
  | endpoint | name | listTypes => exact absurd hsingle (by simp [Command.single?])

/-- What is written without the dry run is what is printed with it. -/
theorem written_of_withoutDryRun {text : Text} {bytes : ByteArray}
    (hsingle : command.single? σ = some (flavor, options))
    (htext : options.text identity flavor σ = .ok text) (hbytes : text.encode? = some bytes)
    (hread : Invocation.read arguments = .ok ⟨verbose, some command.withoutDryRun⟩)
    (hcode : code = 0 ∨ code = 1)
    (h : (program identity arguments).on σ = (.ok (.exit code), τ)) :
    ∃ settings place, σ.settingsOutcome = .ok settings ∧
      τ.files.resolve σ.home (options.target flavor settings) = .ok place ∧
      τ.files.get? place = some (.file bytes) := by
  obtain ⟨settings, text', bytes', place, hsettings, htext', hbytes', hresolve, hput⟩ :=
    dashboardIsPut_of_program hread (single?_withoutDryRun hsingle) (by simp) hcode h
  -- the text does not depend on whether it is a dry run
  obtain rfl := Except.ok.inj (htext.symm.trans htext')
  obtain rfl := Option.some_inj.1 (hbytes.symm.trans hbytes')
  exact ⟨settings, place, hsettings, hresolve, hput.isThere⟩

theorem exists_printsWhatIsWritten
    (hread : Invocation.read arguments = .ok ⟨verbose, some command⟩)
    (hsingle : command.single? σ = some (flavor, options)) (hdry : options.dryRun = true)
    (hcode : code = 0 ∨ code = 1)
    (h : (program identity arguments).on σ = (.ok (.exit code), σ')) :
    ∃ rest, PrintsWhatIsWritten identity command flavor options σ σ' rest ∧ (rest = [] ↔ code = 0) := by
  obtain ⟨text, bytes, rest, htext, hbytes, hstdout, hrest⟩ :=
    stdout_of_dryRun hread hsingle hdry hcode h
  refine ⟨rest, ⟨text, bytes, htext, hbytes, hstdout, ?_⟩, hrest⟩
  intro arguments' verbose' hread' code' hcode' τ hτ
  exact written_of_withoutDryRun hsingle htext hbytes hread' (by simpa using hcode') hτ

/-- There is only one way in which standard output goes on behind the text. -/
theorem PrintsWhatIsWritten.rest_unique {rest rest' : Text}
    (h : PrintsWhatIsWritten identity command flavor options σ σ' rest)
    (h' : PrintsWhatIsWritten identity command flavor options σ σ' rest') : rest = rest' := by
  obtain ⟨text, bytes, htext, -, hstdout, -⟩ := h
  obtain ⟨text', bytes', htext', -, hstdout', -⟩ := h'
  obtain rfl := Except.ok.inj (htext.symm.trans htext')
  exact List.append_cancel_left (hstdout.symm.trans hstdout')

/-- **Dry runs and pipes.**  A dry run that succeeds prints first of all what is written without it, and
it prints nothing else exactly if it ends with 0. -/
theorem dryRun_isPipeable_iff (hread : Invocation.read arguments = .ok ⟨verbose, some command⟩)
    (hsingle : command.single? σ = some (flavor, options)) (hdry : options.dryRun = true)
    (hcode : code = 0 ∨ code = 1)
    (h : (program identity arguments).on σ = (.ok (.exit code), σ')) :
    (∃ rest, PrintsWhatIsWritten identity command flavor options σ σ' rest) ∧
      (IsPipeable identity command flavor options σ σ' ↔ code = 0) := by
  obtain ⟨rest, hprints, hrest⟩ := exists_printsWhatIsWritten hread hsingle hdry hcode h
  refine ⟨⟨rest, hprints⟩, ?_, ?_⟩
  · intro hpipeable
    exact hrest.1 (hprints.rest_unique hpipeable)
  · intro hzero
    rwa [hrest.2 hzero] at hprints

/-! ### A dry run that skips nothing, and one that skips a decision -/

/-- An empty dashboard in the file `t`. -/
def plainSession : Session := { files := ⟨[(["t"], .file "\x7b\x7d".toUTF8)]⟩, home := [] }

/-- What a command line gives for the dashboard of a dry run. -/
def dryOptions : DashboardOptions :=
  { endpoint := "e", build := ⟨some "a", some "1"⟩, template := some "t", dryRun := true }

theorem dryRun_isPipeable_iff_rules : ∃ σ',
    (program (.fixed ⟨7, "u"⟩) ["rules", "e", "-a", "a", "--version", "1", "-t", "t",
      "--dry-run"]).on plainSession = (.ok (.exit 0), σ') ∧
    IsPipeable (.fixed ⟨7, "u"⟩) (.rules dryOptions) .ruleUnit dryOptions plainSession σ' := by
  have hread : Invocation.read ["rules", "e", "-a", "a", "--version", "1", "-t", "t", "--dry-run"] =
      .ok ⟨false, some (.rules dryOptions)⟩ := eq_ok_of_toOption_eq_some (by decide +kernel)
  obtain ⟨σ', hends⟩ : ∃ σ', (program (.fixed ⟨7, "u"⟩) ["rules", "e", "-a", "a", "--version", "1",
      "-t", "t", "--dry-run"]).on plainSession = (.ok (.exit 0), σ') :=
    Run.exists_of_on_fst (eq_ok_of_toOption_eq_some (by decide +kernel))
  exact ⟨σ', hends, (dryRun_isPipeable_iff hread rfl rfl (.inl rfl) hends).2.2 rfl⟩

/-- The file `t` holds an empty dashboard, and the file `d` a decision that declares no type. -/
def untypedSession : Session :=
  { files := ⟨[(["t"], .file "\x7b\x7d".toUTF8), (["d"], .file "decisions: [\x7bname: x\x7d]".toUTF8)]⟩
    home := [] }

/-- A warning on standard output spoils what is printed. -/
theorem not_isPipeable_untyped : ∃ σ',
    (program (.fixed ⟨7, "u"⟩) ["decision", "e", "-a", "a", "--version", "1", "-t", "t", "-d", "d",
      "--dry-run"]).on untypedSession = (.ok (.exit 1), σ') ∧
    ¬ IsPipeable (.fixed ⟨7, "u"⟩) (.decision "d" dryOptions)
      (.decisionModel ((Command.decision "d" dryOptions).decisions untypedSession)) dryOptions
      untypedSession σ' := by
  have hread : Invocation.read ["decision", "e", "-a", "a", "--version", "1", "-t", "t", "-d", "d",
      "--dry-run"] = .ok ⟨false, some (.decision "d" dryOptions)⟩ :=
    eq_ok_of_toOption_eq_some (by decide +kernel)
  obtain ⟨σ', hends⟩ : ∃ σ', (program (.fixed ⟨7, "u"⟩) ["decision", "e", "-a", "a", "--version", "1",
      "-t", "t", "-d", "d", "--dry-run"]).on untypedSession = (.ok (.exit 1), σ') :=
    Run.exists_of_on_fst (eq_ok_of_toOption_eq_some (by decide +kernel))
  obtain ⟨rest, hprints, hrest⟩ := exists_printsWhatIsWritten hread rfl rfl (.inr rfl) hends
  refine ⟨σ', hends, fun hpipeable => ?_⟩
  exact absurd (hrest.1 (hprints.rest_unique hpipeable)) (by decide)

end DashboardSynthesis
