import DashboardSynthesis.Command.Basic
import DashboardSynthesis.Proofs.Command.Ending
import DashboardSynthesis.Proofs.Console.Tags
import DashboardSynthesis.Proofs.Json.Limits

/-!
# Commands that are answered

A guard is there to make an exit code of everything that comes of a command.  It does so unless the
command fails with a report that cannot be told (`answers_iff`): its details may repeat a field of the log
entry, or be such that the log does not take them, an integer among them may be too long, values in them may
be nested too deeply, and there may be something in its text that the console does not show.  Each time it
is the dealing with the failure that breaks.  An interruption and a breakdown are always answered.  What a
console shows is its own affair, but one that reads markup shows every report without brackets
(`canTell_of_not_mem`), and no closing tag where nothing is open (`not_answers_closingTag`).

Whether a step in the dealing succeeds depends on nothing of the session but the platform
(`Run.SucceedsIff`), so what the command has done before it failed does not matter.
-/

namespace DashboardSynthesis

/-! ## Commands whose success depends on the platform -/

namespace Run

variable {α β : Type} {x : Run α} {f : α → Run β} {y : Run Unit} {c d : Platform → Prop}

/-- The condition says on which platforms the command succeeds, whatever the session is; and it leaves the
platform as it is. -/
structure SucceedsIff (x : Run α) (c : Platform → Prop) : Prop where
  succeeds_iff : ∀ σ, (∃ a σ', x.on σ = (.ok a, σ')) ↔ c σ.platform
  keepsPlatform : Changes (fun σ σ' => σ'.platform = σ.platform) x

theorem succeedsIff_pure (a : α) : SucceedsIff (pure a : Run α) fun _ => True :=
  ⟨fun σ => iff_of_true ⟨a, σ, rfl⟩ trivial, fun _ => rfl⟩

theorem succeedsIff_printError (t : Text) : SucceedsIff (printError t) fun _ => True :=
  ⟨fun _ => iff_of_true ⟨(), _, rfl⟩ trivial, fun _ => rfl⟩

theorem succeedsIff_log (event : LogEvent) : SucceedsIff (log event) fun _ => True := by
  refine ⟨fun σ => iff_of_true ⟨(), _, rfl⟩ trivial, fun σ => ?_⟩
  obtain ⟨l, hl⟩ := σ.exists_logged_eq event
  show (σ.logged event).platform = σ.platform
  rw [hl]
  rfl

theorem succeedsIff_showTrace : SucceedsIff showTrace fun _ => True :=
  ⟨fun _ => iff_of_true ⟨(), _, rfl⟩ trivial, fun _ => rfl⟩

theorem succeedsIff_breakWith (cause : Breakdown) :
    SucceedsIff (breakWith cause : Run α) fun _ => False :=
  ⟨fun _ => iff_of_false (fun ⟨_, _, h⟩ => absurd (Prod.mk.inj h).1 (by simp)) id, fun _ => rfl⟩

theorem SucceedsIff.congr (hx : SucceedsIff x c) (h : ∀ platform, c platform ↔ d platform) :
    SucceedsIff x d :=
  ⟨fun σ => (hx.succeeds_iff σ).trans (h σ.platform), hx.keepsPlatform⟩

/-- A command that asks for the platform first. -/
theorem succeedsIff_ask {k : Platform → Run α} {e : Platform → Platform → Prop}
    (hk : ∀ platform, SucceedsIff (k platform) (e platform)) :
    SucceedsIff (get >>= fun σ => k σ.platform) fun platform => e platform platform :=
  ⟨fun σ => (hk σ.platform).succeeds_iff σ, fun σ => (hk σ.platform).keepsPlatform σ⟩

/-- Two commands, one behind the other, succeed if both do. -/
theorem succeedsIff_bind (hx : SucceedsIff x c) (hf : ∀ a, SucceedsIff (f a) d) :
    SucceedsIff (x >>= f) fun platform => c platform ∧ d platform := by
  constructor
  case succeeds_iff =>
    intro σ
    constructor
    · rintro ⟨b, σ', h⟩
      obtain ⟨a, σ₁, hfirst, hrest⟩ := exists_of_on_bind h
      have hplatform := hx.keepsPlatform σ
      rw [hfirst] at hplatform
      refine ⟨(hx.succeeds_iff σ).1 ⟨a, σ₁, hfirst⟩, ?_⟩
      rw [← hplatform]
      exact ((hf a).succeeds_iff σ₁).1 ⟨b, σ', hrest⟩
    · rintro ⟨hc, hd⟩
      obtain ⟨a, σ₁, hfirst⟩ := (hx.succeeds_iff σ).2 hc
      have hplatform := hx.keepsPlatform σ
      rw [hfirst] at hplatform
      rw [on_bind_ok hfirst]
      rw [← hplatform] at hd
      exact ((hf a).succeeds_iff σ₁).2 hd
  case keepsPlatform =>
    exact changes_bind (fun h h' => h'.trans h) hx.keepsPlatform fun a => (hf a).keepsPlatform

/-- A step that is done on a condition, and what comes behind it. -/
theorem succeedsIff_ite {p : Prop} [Decidable p] {k : Unit → Run α} (hy : SucceedsIff y c)
    (hk : ∀ u, SucceedsIff (k u) d) :
    SucceedsIff (if p then y >>= k else k ()) fun platform => (p → c platform) ∧ d platform := by
  split
  · next hp => simpa [hp] using succeedsIff_bind hy hk
  · next hp => simpa [hp] using hk ()

theorem succeedsIff_logFailed (r : Report) (fault : Option Breakdown) :
    SucceedsIff (logFailed r fault) fun _ => fault = none := by
  cases fault with
  | none => exact (succeedsIff_log _).congr fun _ => by simp
  | some cause => exact (succeedsIff_breakWith cause).congr fun _ => by simp

theorem succeedsIff_printErrorShown (outcome : Except Breakdown Text) :
    SucceedsIff (printErrorShown outcome) fun _ => ∃ t, outcome = .ok t := by
  cases outcome with
  | ok t => exact (succeedsIff_printError t).congr fun _ => by simp
  | error cause => exact (succeedsIff_breakWith cause).congr fun _ => by simp

/-- A report is logged unless a detail has the name of a field of the entry, or the log does not take the
details. -/
theorem succeedsIff_logReport (r : Report) :
    SucceedsIff (logReport r) fun platform =>
      (∀ key ∈ r.details.keys, key ∉ Report.reservedFields) ∧ platform.logFault r.details = none := by
  rw [logReport.eq_def]
  split
  · next key hkey =>
    refine (succeedsIff_breakWith _).congr fun platform => iff_of_false id fun h => ?_
    have hreserved := List.find?_some hkey
    exact h.1 key (List.mem_of_find?_eq_some hkey) (by simpa using hreserved)
  · next hnone =>
    have hfields : ∀ key ∈ r.details.keys, key ∉ Report.reservedFields := by
      intro key hmem
      simpa using List.find?_eq_none.1 hnone key hmem
    exact (succeedsIff_ask fun platform => succeedsIff_logFailed r (platform.logFault r.details)).congr
      fun _ => (and_iff_right hfields).symm

/-- A message to standard error is printed if the console shows it. -/
theorem succeedsIff_complain (message : Text) :
    SucceedsIff (complain message) fun platform =>
      ∃ t, platform.errorConsole.text (errorLine message) = .ok t :=
  succeedsIff_ask fun platform => succeedsIff_printErrorShown (platform.errorConsole.text (errorLine message))

theorem succeedsIff_complainOf (r : Report) :
    SucceedsIff (complainOf r) fun platform =>
      Json.membersArePrintable r.details = true ∧ Json.membersNesting r.details ≤ platform.levels ∧
        ∃ t, platform.errorConsole.text (errorLine r.formatted) = .ok t := by
  have hdeep (platform : Platform) : SucceedsIff
      (if platform.levels < Json.membersNesting r.details then breakWith .tooDeep
        else complain r.formatted) fun platform' =>
      Json.membersNesting r.details ≤ platform.levels ∧
        ∃ t, platform'.errorConsole.text (errorLine r.formatted) = .ok t := by
    split
    · next h => exact (succeedsIff_breakWith _).congr fun _ => by simp [Nat.not_le.2 h]
    · next h => exact (succeedsIff_complain _).congr fun _ => by simp [Nat.not_lt.1 h]
  rw [complainOf]
  split
  · next h => exact (succeedsIff_breakWith _).congr fun _ => by simpa using fun h' => by simp [h'] at h
  · next h => exact (succeedsIff_ask hdeep).congr fun _ => by simp_all

end Run

/-! ## Guards -/

namespace Guard

/-- On a platform the guard can deal with a report. -/
structure CanTell (g : Guard) (platform : Platform) (r : Report) : Prop where
  /-- No detail has the name of a field that the log entry has anyway. -/
  fields : g.logsFailures = true → ∀ key ∈ r.details.keys, key ∉ Report.reservedFields
  /-- The log takes the details. -/
  logged : g.logsFailures = true → platform.logFault r.details = none
  /-- The integers in the details keep the digit limit. -/
  digits : ∀ m ∈ r.details, m.2.isPrintable = true
  /-- Values are not nested too deeply in the details. -/
  levels : ∀ m ∈ r.details, m.2.nesting ≤ platform.levels
  /-- The console shows the text. -/
  shown : ∃ t, platform.errorConsole.text (errorLine r.formatted) = .ok t

/-- What comes of a command in a session is an exit code: its own one if it succeeds, with all that it
has done, and the code for its failure if it fails. -/
structure Answers (g : Guard) (command : Run Int) (σ : Session) : Prop where
  returned : ∀ code σ', command.on σ = (.ok code, σ') → (g.run command).on σ = (.ok code, σ')
  failed : ∀ failure σ', command.on σ = (.error failure, σ') →
    ∃ σ₁, (g.run command).on σ = (.ok failure.exitCode, σ₁)

variable {g : Guard} {command : Run Int} {σ σ' : Session}

theorem canTell_iff {platform : Platform} {r : Report} :
    g.CanTell platform r ↔
      (g.logsFailures = true → (∀ key ∈ r.details.keys, key ∉ Report.reservedFields) ∧
        platform.logFault r.details = none) ∧
      Json.membersArePrintable r.details = true ∧ Json.membersNesting r.details ≤ platform.levels ∧
      ∃ t, platform.errorConsole.text (errorLine r.formatted) = .ok t := by
  rw [Json.membersArePrintable_iff, Json.membersNesting_le_iff]
  exact ⟨fun h => ⟨fun hlogs => ⟨h.fields hlogs, h.logged hlogs⟩, h.digits, h.levels, h.shown⟩,
    fun ⟨hlogs, hdigits, hlevels, hshown⟩ =>
      ⟨fun h => (hlogs h).1, fun h => (hlogs h).2, hdigits, hlevels, hshown⟩⟩

/-- A report without brackets, on a console that reads markup. -/
theorem canTell_of_not_mem {platform : Platform} {width : Nat} {evaluates : Text → Bool} {r : Report}
    (hconsole : platform.errorConsole = .markup width evaluates)
    (hfields : ∀ key ∈ r.details.keys, key ∉ Report.reservedFields)
    (hlogged : platform.logFault r.details = none)
    (hdigits : ∀ m ∈ r.details, m.2.isPrintable = true)
    (hlevels : ∀ m ∈ r.details, m.2.nesting ≤ platform.levels) (hplain : .scalar '[' ∉ r.formatted) :
    g.CanTell platform r := by
  refine ⟨fun _ => hfields, fun _ => hlogged, hdigits, hlevels, ?_⟩
  rw [hconsole]
  exact Console.exists_text_errorLine_eq width evaluates hplain

/-- Dealing with a failure succeeds unless it is a report that cannot be told. -/
theorem succeedsIff_answer (g : Guard) (failure : Failure) :
    Run.SucceedsIff (g.answer failure) fun platform =>
      ∀ r, failure = .reported r → g.CanTell platform r := by
  cases failure with
  | reported r =>
    have htrace : Run.SucceedsIff (do
        if r.kind.showsTrace || g.showsTrace then Run.showTrace
        pure r.kind.exitCode) _ :=
      Run.succeedsIff_ite Run.succeedsIff_showTrace fun _ => Run.succeedsIff_pure _
    refine (Run.succeedsIff_ite (Run.succeedsIff_logReport r) fun _ =>
      Run.succeedsIff_bind (Run.succeedsIff_complainOf r) fun _ => htrace).congr fun platform => ?_
    simp [canTell_iff]
  | interrupted =>
    refine (Run.succeedsIff_ite (Run.succeedsIff_log _) fun _ =>
      Run.succeedsIff_pure _).congr fun platform => ?_
    simp
  | broken cause =>
    refine (Run.succeedsIff_ite (Run.succeedsIff_log _) fun _ =>
      Run.succeedsIff_ite Run.succeedsIff_showTrace fun _ =>
        Run.succeedsIff_pure _).congr fun platform => ?_
    simp

/-- A failure is answered with the exit code for it, or not at all. -/
theorem exists_on_run_iff {failure : Failure} (h : command.on σ = (.error failure, σ')) :
    (∃ σ₁, (g.run command).on σ = (.ok failure.exitCode, σ₁)) ↔
      ∀ r, failure = .reported r → g.CanTell σ'.platform r := by
  rw [← (succeedsIff_answer g failure).succeeds_iff σ', run, Run.on_tryCatch, h]
  constructor
  · rintro ⟨σ₁, hanswer⟩
    exact ⟨_, σ₁, hanswer⟩
  · rintro ⟨code, σ₁, hanswer⟩
    obtain rfl := gives_answer g failure _ _ _ hanswer
    exact ⟨σ₁, hanswer⟩

/-- **A guarded command comes to its exit code unless it fails with a report that cannot be told, and
only then.** -/
theorem answers_iff (g : Guard) (command : Run Int) (σ : Session) :
    g.Answers command σ ↔
      ∀ r σ', command.on σ = (.error (.reported r), σ') → g.CanTell σ'.platform r := by
  constructor
  · intro h r σ' hfails
    exact (exists_on_run_iff hfails).1 (h.failed _ _ hfails) r rfl
  · intro h
    refine ⟨fun _ _ hreturns => on_run_of_ok hreturns, fun failure σ' hfails => ?_⟩
    refine (exists_on_run_iff hfails).2 fun r hr => h r σ' ?_
    rw [hfails, hr]

/-- The artifact id in the report on half a build is taken for a tag that closes nothing. -/
theorem not_answers_closingTag :
    ¬ ({} : Guard).Answers ((Command.name "h" ⟨some "[/x]", none⟩).body (.fixed ⟨7, "u"⟩))
      { files := ⟨[]⟩, home := [] } := by
  intro h
  have hends := h.failed (.reported (BuildOptions.halfReport ⟨some "[/x]", none⟩)) _ rfl
  obtain ⟨t, ht⟩ := ((exists_on_run_iff rfl).1 hends _ rfl).shown
  have hnone : ((Console.markup 80).text
      (errorLine (BuildOptions.halfReport ⟨some "[/x]", none⟩).formatted)).toOption = none := by
    decide +kernel
  exact absurd (hnone.symm.trans (congrArg Except.toOption ht)) (by simp [Except.toOption])

end Guard
end DashboardSynthesis
