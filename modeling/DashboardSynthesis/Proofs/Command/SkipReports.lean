import DashboardSynthesis.Proofs.Command.Ending
import DashboardSynthesis.Proofs.Console.Warnings

/-!
# Reports on the decisions that are skipped

A command that makes dashboards does two things, one after the other (`body_eq_of_put?`): it puts the
dashboards where they are to go, and then it tells of it, with a warning for each decision that is skipped.
The recorded messages are the right ones, one for each such decision and in order
(`forall₂_warnings_of_put?`).

But they are told as lines with markup, so what becomes of them is for the console and for standard output
to say.  The report is complete exactly if all that there is to tell is printed, and each message stands
unchanged on a line of its own (`reportsSkipped_iff_tellsAll`).  On a console that reads markup it is so if
every message is plain, and for messages without colons this is the only way in which it can be so
(`reportsSkipped_iff`).  A decision whose name reads as a closing tag breaks the command when the dashboard
has already been put (`not_reportsSkipped_closingTag`).
-/

namespace DashboardSynthesis

open Layout (IsLine)

/-! ## What is printed -/

/-- Something is related to each of some things exactly if this can be said of all of them at once. -/
theorem exists_forall₂_iff {α β : Type} {R : α → β → Prop} {as : List α} :
    (∃ bs, List.Forall₂ R as bs) ↔ ∀ a ∈ as, ∃ b, R a b := by
  induction as with
  | nil => exact iff_of_true ⟨[], .nil⟩ fun _ h => absurd h List.not_mem_nil
  | cons a as ih =>
    rw [List.forall_mem_cons, ← ih]
    constructor
    · rintro ⟨_, _ | ⟨hb, hbs⟩⟩
      exact ⟨⟨_, hb⟩, _, hbs⟩
    · rintro ⟨⟨b, hb⟩, bs, hbs⟩
      exact ⟨b :: bs, .cons hb hbs⟩

namespace Platform

variable {platform : Platform} {message t : Text}

/-- What is printed for messages is determined by the messages. -/
theorem rightUnique_prints (platform : Platform) (line : Text → Text) :
    Relator.RightUnique fun message => platform.Prints (line message) :=
  fun _ _ _ h h' => Except.ok.inj (h.1.symm.trans h'.1)

theorem Prints.one_le_count (h : platform.Prints message t) : 1 ≤ t.count (.scalar '\n') := by
  obtain ⟨body, rfl⟩ := platform.console.endsLine h.1
  rw [List.count_append]
  exact Nat.le_add_left 1 _

/-- What is printed ends with a break, so it is a line if there is no other one. -/
theorem Prints.isLine (h : platform.Prints message t) (hone : t.count (.scalar '\n') = 1) : IsLine t := by
  obtain ⟨body, rfl⟩ := platform.console.endsLine h.1
  have hbreak : ("\n" : Text).count (.scalar '\n') = 1 := rfl
  rw [List.count_append, hbreak] at hone
  exact ⟨body, List.count_eq_zero.1 (Nat.add_right_cancel hone), rfl⟩

/-- What is printed for messages, if it is as many lines as there are messages, is one line for each. -/
theorem eq_of_flatten_eq {line : Text → Text} {messages blocks lines : List Text}
    (hblocks : List.Forall₂ (fun message => platform.Prints (line message)) messages blocks)
    (hlines : ∀ l ∈ lines, IsLine l) (hlength : lines.length = messages.length)
    (heq : blocks.flatten = lines.flatten) : blocks = lines := by
  have hprinted : ∀ block ∈ blocks, ∃ message, platform.Prints message block := by
    intro block hblock
    obtain ⟨message, -, hprints⟩ := exists_of_mem_of_forall₂ hblocks block hblock
    exact ⟨_, hprints⟩
  have hcounts : lines.map (List.count (.scalar '\n')) = lines.map fun _ => 1 :=
    List.map_congr_left fun l hl => (hlines l hl).count
  have hcount : blocks.flatten.count (.scalar '\n') = blocks.length := by
    rw [heq, List.count_flatten, hcounts, List.map_const', List.sum_replicate_nat, ← hblocks.length_eq,
      hlength, Nat.mul_one]
  have hone : ∀ block ∈ blocks, block.count (.scalar '\n') = 1 := by
    refine Layout.count_eq_one_of_flatten (fun block hblock => ?_) hcount
    obtain ⟨_, hprints⟩ := hprinted block hblock
    exact hprints.one_le_count
  have hare : ∀ block ∈ blocks, IsLine block := by
    intro block hblock
    obtain ⟨_, hprints⟩ := hprinted block hblock
    exact hprints.isLine (hone block hblock)
  exact Layout.eq_of_flatten_eq hare hlines heq

end Platform

namespace Command

variable {identity : IdentitySource} {command : Command} {σ σ₁ σ' : Session} {notices : List Text}
  {x : Run (List Text)} {code : Int} {width : Nat} {evaluates : Text → Bool}

/-! ## Putting and telling -/

/-- What a command that makes dashboards does, up to where it tells of it.  The outcome is what there is to
be said; other commands make no dashboards. -/
def put? (identity : IdentitySource) : Command → Option (Run (List Text))
  | .operational options => some do
    let build ← Run.orReport options.build.build
    putDashboard identity .operational build options
  | .decision decisions options => some do
    let build ← Run.orReport options.build.build
    let decisions ← Decision.load decisions
    putDashboard identity (.decisionModel decisions) build options
  | .rules options => some do
    let build ← Run.orReport options.build.build
    putDashboard identity .ruleUnit build options
  | .endpoint options => some (putEndpointDashboards identity options)
  | .name .. | .listTypes => none

/-- First the dashboards are put, and then it is told. -/
theorem body_eq_of_put? (hput : command.put? identity = some x) :
    command.body identity = x >>= tell := by
  cases command with
  | operational o | decision file o | rules o =>
    rw [← Option.some_inj.1 hput]
    simp only [body, bind_assoc, makeDashboard_eq]
  | endpoint o =>
    rw [← Option.some_inj.1 hput]
    exact makeEndpointDashboards_eq
  | name | listTypes => exact absurd hput (by simp [put?])

/-- The decisions that get no panel. -/
def skipped (command : Command) (σ : Session) : List Decision :=
  (command.decisions σ).filter fun d => !d.isSupported Registry.standard

theorem forall₂_warningsOf (flavor : Flavor) (build : Build) (options : DashboardOptions)
    (settings : Settings) :
    List.Forall₂ IsSkipWarning (flavor.decisions.filter fun d => !d.isSupported Registry.standard)
      (warningsOf identity flavor build options settings) :=
  forall₂_warnings (Prod.ext rfl (treatAll_standard flavor.decisions))

theorem forall₂_warnings_of_putDashboard {flavor : Flavor} {build : Build} {options : DashboardOptions}
    (h : (putDashboard identity flavor build options).on σ = (.ok notices, σ₁)) :
    List.Forall₂ IsSkipWarning (flavor.decisions.filter fun d => !d.isSupported Registry.standard)
      σ₁.warnings := by
  obtain ⟨⟨settings, hwarnings⟩, -⟩ := warnings_and_platform_of_putDashboard h
  rw [hwarnings]
  exact forall₂_warningsOf flavor build options settings

/-- **What is recorded.**  There is one warning for each decision that is skipped, in order. -/
theorem forall₂_warnings_of_put? (hput : command.put? identity = some x)
    (h : x.on σ = (.ok notices, σ₁)) :
    List.Forall₂ IsSkipWarning (command.skipped σ) σ₁.warnings := by
  rw [skipped]
  cases command with
  | operational o | rules o =>
    obtain rfl := Option.some_inj.1 hput
    obtain ⟨build, σ₀, -, hrest⟩ := Run.exists_of_on_bind h
    have hnone := forall₂_warnings_of_putDashboard hrest
    exact hnone
  | decision file o =>
    obtain rfl := Option.some_inj.1 hput
    obtain ⟨build, σ₀, hreport, hrest⟩ := Run.exists_of_on_bind h
    obtain ⟨-, rfl⟩ := Run.of_orReport hreport
    obtain ⟨ds, σ₂, hload, hrest⟩ := Run.exists_of_on_bind hrest
    obtain ⟨houtcome, -⟩ := Decision.of_load hload
    rw [decisions_of_loadOutcome rfl houtcome]
    have hall := forall₂_warnings_of_putDashboard hrest
    exact hall
  | endpoint o =>
    obtain rfl := Option.some_inj.1 hput
    obtain ⟨_, ds, _, _, _, _, _, _, -, hds, -, -, -, -, hwarnings, -⟩ := of_putEndpointDashboards h
    rw [hwarnings, decisions_endpoint hds]
    exact forall₂_warningsOf _ _ _ _
  | name | listTypes => exact absurd hput (by simp [put?])

/-- Putting dashboards leaves the platform as it is. -/
theorem platform_of_put? (hput : command.put? identity = some x) (h : x.on σ = (.ok notices, σ₁)) :
    σ₁.platform = σ.platform := by
  cases command with
  | operational o | rules o =>
    obtain rfl := Option.some_inj.1 hput
    obtain ⟨build, σ₀, hreport, hrest⟩ := Run.exists_of_on_bind h
    obtain ⟨-, rfl⟩ := Run.of_orReport hreport
    exact (warnings_and_platform_of_putDashboard hrest).2
  | decision file o =>
    obtain rfl := Option.some_inj.1 hput
    obtain ⟨build, σ₀, hreport, hrest⟩ := Run.exists_of_on_bind h
    obtain ⟨-, rfl⟩ := Run.of_orReport hreport
    obtain ⟨ds, σ₂, hload, hrest⟩ := Run.exists_of_on_bind hrest
    obtain ⟨-, l, rfl⟩ := Decision.of_load hload
    exact (warnings_and_platform_of_putDashboard hrest).2
  | endpoint o =>
    obtain rfl := Option.some_inj.1 hput
    obtain ⟨_, _, _, _, _, _, _, _, -, -, -, -, -, -, -, hplatform⟩ := of_putEndpointDashboards h
    exact hplatform
  | name | listTypes => exact absurd hput (by simp [put?])

/-! ## Reports -/

/-- The command ends with the code that says whether decisions are skipped.  Behind what there is to be
said about the dashboards it prints a line for each decision that is skipped, in order, and the line
contains the message that has been recorded about it. -/
def ReportsSkipped (identity : IdentitySource) (command : Command) (σ : Session)
    (notices : List Text) (σ₁ : Session) : Prop :=
  List.Forall₂ IsSkipWarning (command.skipped σ) σ₁.warnings ∧
    ∃ code σ' front lines, (command.run identity).on σ = (.ok code, σ') ∧
      code = (if command.skipped σ = [] then 0 else 1) ∧
      List.Forall₂ (fun notice => σ.platform.Prints (successLine notice)) notices front ∧
      List.Forall₂ (fun message line => IsLine line ∧ message <:+: line) σ₁.warnings lines ∧
      σ'.stdout = σ₁.stdout ++ front.flatten ++ lines.flatten

/-- Everything that there is to tell is printed, and each warning on a line of its own and unchanged. -/
structure TellsAll (platform : Platform) (notices messages : List Text) : Prop where
  notices : ∀ notice ∈ notices, ∃ t, platform.Prints (successLine notice) t
  warnings : ∀ message ∈ messages,
    ∃ line, platform.Prints (warningLine message) line ∧ IsLine line ∧ message <:+: line

/-- Nothing that is told is changed on the way to a console with lines of a width. -/
structure TellsPlainly (platform : Platform) (width : Nat) (notices messages : List Text) : Prop where
  /-- What there is to be said about the dashboards is printed somehow. -/
  notices : ∀ notice ∈ notices, ∃ t, platform.Prints (successLine notice) t
  warnings : ∀ message ∈ messages, IsPlainMessage width message
  /-- Standard output takes the lines. -/
  taken : ∀ message ∈ messages,
    (("⚠ " : Text) ++ message ++ ("\n" : Text)).all platform.takes = true

theorem codeOf_eq_of_forall₂ {ds : List Decision} {warnings : List Text}
    (h : List.Forall₂ IsSkipWarning ds warnings) : codeOf warnings = if ds = [] then 0 else 1 := by
  cases h <;> rfl

theorem eq_zero_or_eq_one {c : Prop} [Decidable c] (h : code = if c then 0 else 1) :
    code = 0 ∨ code = 1 := by
  split at h
  · exact .inl h
  · exact .inr h

/-- A command that makes dashboards ends with what telling ends with, if that is 0 or 1. -/
theorem run_on_iff (hput : command.put? identity = some x) (h : x.on σ = (.ok notices, σ₁))
    (hcode : code = 0 ∨ code = 1) :
    (command.run identity).on σ = (.ok code, σ') ↔ (tell notices).on σ₁ = (.ok code, σ') := by
  have hbody : (command.body identity).on σ = (tell notices).on σ₁ := by
    rw [body_eq_of_put? hput]
    exact Run.on_bind_ok h
  rw [← hbody]
  constructor
  · intro hrun
    obtain hreturns | ⟨failure, _, -, rfl, -⟩ := of_run hrun
    · exact hreturns
    · exact absurd hcode (not_or.2 failure.exitCode_ne)
  · intro hreturns
    cases command with
    | listTypes => exact absurd hput (by simp [put?])
    | _ => exact Guard.on_run_of_ok hreturns

/-- If everything is told, then the report is complete. -/
theorem reportsSkipped_of_tellsAll (hput : command.put? identity = some x)
    (h : x.on σ = (.ok notices, σ₁)) (htells : TellsAll σ.platform notices σ₁.warnings) :
    ReportsSkipped identity command σ notices σ₁ := by
  have hrecorded := forall₂_warnings_of_put? hput h
  have hcode := codeOf_eq_of_forall₂ hrecorded
  obtain ⟨front, hfront⟩ := exists_forall₂_iff.2 htells.notices
  obtain ⟨lines, hlines⟩ := exists_forall₂_iff.2 htells.warnings
  have htell : (tell notices).on σ₁ =
      (.ok (codeOf σ₁.warnings), σ₁.printed (front.flatten ++ lines.flatten)) := by
    refine tell_on_iff.2 ⟨rfl, front, lines, ?_, ?_, rfl⟩
    · rwa [platform_of_put? hput h]
    · rw [platform_of_put? hput h]
      exact hlines.imp fun _ _ h => h.1
  have hrun := (run_on_iff hput h (eq_zero_or_eq_one hcode)).2 htell
  refine ⟨hrecorded, _, _, front, lines, hrun, hcode, hfront, hlines.imp fun _ _ h => h.2, ?_⟩
  exact (List.append_assoc _ _ _).symm

/-- If the report is complete, then everything has been told. -/
theorem tellsAll_of_reportsSkipped (hput : command.put? identity = some x)
    (h : x.on σ = (.ok notices, σ₁)) (hreports : ReportsSkipped identity command σ notices σ₁) :
    TellsAll σ.platform notices σ₁.warnings := by
  obtain ⟨-, code, σ', front, lines, hrun, hcode, hfront, hlines, hstdout⟩ := hreports
  have htell := (run_on_iff hput h (eq_zero_or_eq_one hcode)).1 hrun
  obtain ⟨-, front', blocks, hfront', hblocks, rfl⟩ := tell_on_iff.1 htell
  rw [platform_of_put? hput h] at hfront' hblocks
  -- what has been printed for the warnings is the lines
  obtain rfl : front' = front :=
    List.right_unique_forall₂' (σ.platform.rightUnique_prints successLine) hfront' hfront
  have hflatten : blocks.flatten = lines.flatten := by
    rw [Session.printed_stdout, ← List.append_assoc] at hstdout
    exact List.append_cancel_left hstdout
  have hare : ∀ line ∈ lines, IsLine line := by
    intro line hline
    obtain ⟨message, -, hof⟩ := exists_of_mem_of_forall₂ hlines line hline
    exact hof.1
  obtain rfl : blocks = lines :=
    Platform.eq_of_flatten_eq hblocks hare hlines.length_eq.symm hflatten
  have hboth := hblocks.mp (fun _ _ hprints hline => And.intro hprints hline) hlines
  exact ⟨exists_forall₂_iff.1 ⟨front', hfront'⟩, exists_forall₂_iff.1 ⟨blocks, hboth⟩⟩

/-- **Reports on skipped decisions are complete exactly if everything is told.** -/
theorem reportsSkipped_iff_tellsAll (hput : command.put? identity = some x)
    (h : x.on σ = (.ok notices, σ₁)) :
    ReportsSkipped identity command σ notices σ₁ ↔ TellsAll σ.platform notices σ₁.warnings :=
  ⟨tellsAll_of_reportsSkipped hput h, reportsSkipped_of_tellsAll hput h⟩

/-! ### Plain messages -/

variable {platform : Platform} {ds : List Decision} {warnings : List Text}

/-- What is told plainly is told. -/
theorem TellsPlainly.tellsAll (hconsole : platform.console = .markup width evaluates)
    (hrecorded : List.Forall₂ IsSkipWarning ds warnings)
    (hplain : TellsPlainly platform width notices warnings) : TellsAll platform notices warnings := by
  refine ⟨hplain.notices, fun message hmessage => ?_⟩
  obtain ⟨d, -, hd⟩ := exists_of_mem_of_forall₂ hrecorded message hmessage
  have hmessagePlain := hplain.warnings message hmessage
  have hshown : platform.console.text (warningLine message) =
      .ok (("⚠ " : Text) ++ message ++ ("\n" : Text)) := by
    rw [hconsole]
    exact hd.text_eq hmessagePlain
  exact ⟨_, ⟨hshown, hplain.taken message hmessage⟩, isLine_of_controls hmessagePlain.controls, _, _, rfl⟩

/-- What is told without colons is told plainly. -/
theorem TellsAll.tellsPlainly (hconsole : platform.console = .markup width evaluates)
    (hrecorded : List.Forall₂ IsSkipWarning ds warnings) (hroom : 0 < width)
    (hcolon : ∀ message ∈ warnings, .scalar ':' ∉ message) (htells : TellsAll platform notices warnings) :
    TellsPlainly platform width notices warnings := by
  have hplain : ∀ message ∈ warnings, IsPlainMessage width message := by
    intro message hmessage
    obtain ⟨d, -, hd⟩ := exists_of_mem_of_forall₂ hrecorded message hmessage
    obtain ⟨line, ⟨htext, -⟩, hline, hwithin⟩ := htells.warnings message hmessage
    rw [hconsole] at htext
    exact hd.isPlainMessage hroom (hcolon message hmessage) htext hline hwithin
  refine ⟨htells.notices, hplain, fun message hmessage => ?_⟩
  obtain ⟨d, -, hd⟩ := exists_of_mem_of_forall₂ hrecorded message hmessage
  obtain ⟨line, ⟨htext, htaken⟩, -⟩ := htells.warnings message hmessage
  rw [hconsole, hd.text_eq (hplain message hmessage)] at htext
  rwa [Except.ok.inj htext]

/-- **Reports on skipped decisions.**  Whatever the console makes of messages, they are complete exactly if
everything is told.  On a console that reads markup they are complete if everything is told plainly, and if
there are no colons in the messages only then. -/
theorem reportsSkipped_iff (hput : command.put? identity = some x) (h : x.on σ = (.ok notices, σ₁)) :
    (ReportsSkipped identity command σ notices σ₁ ↔ TellsAll σ.platform notices σ₁.warnings) ∧
      ∀ width evaluates, σ.platform.console = .markup width evaluates →
        (TellsPlainly σ.platform width notices σ₁.warnings →
          ReportsSkipped identity command σ notices σ₁) ∧
        (0 < width → (∀ message ∈ σ₁.warnings, .scalar ':' ∉ message) →
          (ReportsSkipped identity command σ notices σ₁ ↔
            TellsPlainly σ.platform width notices σ₁.warnings)) := by
  have hall := reportsSkipped_iff_tellsAll hput h
  have hrecorded := forall₂_warnings_of_put? hput h
  refine ⟨hall, fun width evaluates hconsole => ?_⟩
  have hcomplete : TellsPlainly σ.platform width notices σ₁.warnings →
      ReportsSkipped identity command σ notices σ₁ :=
    fun hplain => hall.2 (hplain.tellsAll hconsole hrecorded)
  refine ⟨hcomplete, fun hroom hcolon => ⟨fun hreports => ?_, hcomplete⟩⟩
  exact (hall.1 hreports).tellsPlainly hconsole hrecorded hroom hcolon

/-! ### A decision with a plain name, and one with a closing tag for a name -/

/-- The file `t` holds an empty dashboard, and the file `d` a decision that declares no type. -/
def namedSession (name : String) : Session :=
  { files := ⟨[(["t"], .file "\x7b\x7d".toUTF8),
      (["d"], .file ("decisions: [\x7bname: '" ++ name ++ "'\x7d]").toUTF8)]⟩
    home := [] }

/-- What a command line gives for the dashboard of this decision. -/
def namedOptions : DashboardOptions :=
  { endpoint := "e", build := ⟨some "a", some "1"⟩, template := some "t" }

/-- The command for this dashboard, up to where it tells. -/
def putNamed : Run (List Text) :=
  ((Command.decision "d" namedOptions).put? (.fixed ⟨7, "u"⟩)).get rfl

theorem put?_named : (Command.decision "d" namedOptions).put? (.fixed ⟨7, "u"⟩) = some putNamed := rfl

/-- What there is to be said about this dashboard. -/
def namedNotices : List Text := ["Dashboard written to generated/dashboards/domain-dashboard-e.json"]

/-- The warning about the decision. -/
def namedWarning (name : Text) : Text :=
  ("Type of the decision \"" : Text) ++ name ++ ("\" with id \"" : Text) ++ name ++
    ("\" is not declared." : Text)

theorem putNamed_on (name : String)
    (hnotices : (putNamed.on (namedSession name)).1.toOption = some namedNotices)
    (hwarnings : (putNamed.on (namedSession name)).2.warnings = [namedWarning name]) :
    ∃ σ₁, putNamed.on (namedSession name) = (.ok namedNotices, σ₁) ∧
      σ₁.warnings = [namedWarning name] :=
  ⟨_, Prod.ext (eq_ok_of_toOption_eq_some hnotices) rfl, hwarnings⟩

/-- A message is printed if it can be shown with characters that standard output takes. -/
theorem exists_prints {platform : Platform} {message : Text}
    (h : (platform.console.text message).toOption.any (·.all platform.takes) = true) :
    ∃ t, platform.Prints message t := by
  obtain ⟨t, ht, htaken⟩ := (Option.any_eq_true _ _).1 h
  exact ⟨t, eq_ok_of_toOption_eq_some ht, htaken⟩

theorem reportsSkipped_named : ∃ notices σ₁, putNamed.on (namedSession "x") = (.ok notices, σ₁) ∧
    σ₁.warnings ≠ [] ∧
    ReportsSkipped (.fixed ⟨7, "u"⟩) (.decision "d" namedOptions) (namedSession "x") notices σ₁ := by
  obtain ⟨σ₁, hput, hwarnings⟩ := putNamed_on "x" (by decide +kernel) (by decide +kernel)
  have hplain : TellsPlainly {} 80 namedNotices σ₁.warnings := by
    rw [hwarnings]
    refine ⟨List.forall_mem_singleton.2 (exists_prints (by decide +kernel)),
      List.forall_mem_singleton.2 ?_, by decide +kernel⟩
    exact ⟨by decide +kernel, by decide +kernel, by decide +kernel, by decide +kernel⟩
  have hcolon : ∀ message ∈ σ₁.warnings, .scalar ':' ∉ message := by
    rw [hwarnings]
    decide +kernel
  refine ⟨_, σ₁, hput, ?_, ?_⟩
  · rw [hwarnings]
    exact List.cons_ne_nil _ _
  · exact (((reportsSkipped_iff put?_named hput).2 80 _ rfl).2 (by decide) hcolon).2 hplain

/-- The dashboard has been put, but the name of the decision closes a tag that is not open. -/
theorem not_reportsSkipped_closingTag :
    ∃ notices σ₁, putNamed.on (namedSession "[/x]") = (.ok notices, σ₁) ∧
      ¬ ReportsSkipped (.fixed ⟨7, "u"⟩) (.decision "d" namedOptions) (namedSession "[/x]") notices σ₁ := by
  obtain ⟨σ₁, hput, hwarnings⟩ := putNamed_on "[/x]" (by decide +kernel) (by decide +kernel)
  refine ⟨_, σ₁, hput, fun hreports => ?_⟩
  have htells := tellsAll_of_reportsSkipped put?_named hput hreports
  rw [hwarnings] at htells
  obtain ⟨line, ⟨htext, -⟩, -⟩ := htells.warnings _ List.mem_cons_self
  have hnone : ((Console.markup 80).text (warningLine (namedWarning "[/x]"))).toOption = none := by
    decide +kernel
  exact absurd (hnone.symm.trans (congrArg Except.toOption htext)) (by simp [Except.toOption])

end Command
end DashboardSynthesis
