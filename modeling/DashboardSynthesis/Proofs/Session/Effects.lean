import DashboardSynthesis.Console.Message
import DashboardSynthesis.Proofs.FileTree.Writing
import DashboardSynthesis.Proofs.Synthesis.Runs
import Mathlib.Tactic.Simps.Basic

/-!
# What commands do to the files of a session

Three properties of commands say how what they do to the files and how they fail go together.  A command
may keep the files whatever comes of it (`KeepsFiles`), it may never fail with a report (`NeverReports`),
and it may fail with a report only as long as it has not touched the files (`ReportsFirst`).  The third
follows where a command that keeps the files stands in front of one that never reports.

What messages add to standard output is known message by message, where each is shown by the console and
taken by standard output (`forM_say_on_iff`).

The steps that commands are built from are classified here: what reads, logs or prints keeps the files,
and what has to do with the files or with the console breaks, if it fails, without a report.
-/

namespace DashboardSynthesis

/-- What a message becomes on standard output, if it is printed. -/
def Platform.Prints (platform : Platform) (message t : Text) : Prop :=
  platform.console.text message = .ok t ∧ t.all platform.takes = true

namespace Session

/-- The session with other files. -/
@[simps] def withFiles (σ : Session) (files : FileTree) : Session := { σ with files }

/-- The session with other warnings. -/
@[simps] def withWarnings (σ : Session) (warnings : List Text) : Session := { σ with warnings }

/-- The session with another log. -/
@[simps] def withLog (σ : Session) (log : List LogEvent) : Session := { σ with log }

/-- The session once a text has been printed. -/
@[simps] def printed (σ : Session) (t : Text) : Session := { σ with stdout := σ.stdout ++ t }

theorem printed_nil (σ : Session) : σ.printed [] = σ := by
  rw [printed, List.append_nil]

theorem printed_printed (σ : Session) (t t' : Text) :
    (σ.printed t).printed t' = σ.printed (t ++ t') := by
  rw [printed, printed, printed, List.append_assoc]

/-- Logging changes the log only. -/
theorem exists_logged_eq (σ : Session) (event : LogEvent) :
    ∃ l, σ.logged event = σ.withLog l := by
  rw [logged]
  split
  · exact ⟨σ.log, rfl⟩
  · exact ⟨_, rfl⟩

theorem exists_treated_eq (σ : Session) (ts : List Treatment) :
    ∃ l, σ.treated ts =
      (σ.withWarnings (σ.warnings ++ ts.filterMap Treatment.warning?)).withLog l := by
  induction ts generalizing σ with
  | nil => exact ⟨σ.log, by simp [treated, withLog, withWarnings]⟩
  | cons t ts ih =>
    obtain ⟨l, hl⟩ := exists_logged_eq σ t.event
    rw [treated, hl]
    obtain ⟨l', hl'⟩ := ih ((σ.withWarnings (σ.warnings ++ t.warning?.toList)).withLog l)
    refine ⟨l', hl'.trans ?_⟩
    cases h : t.warning? <;> simp [h, withLog, withWarnings]

end Session

namespace Run

variable {α β : Type} {x : Run α} {f : α → Run β} {σ σ' : Session}

/-! ## One command behind another -/

theorem on_get (σ : Session) : (get : Run Session).on σ = (.ok σ, σ) := rfl

/-- What the first of two commands gave, and what the second one made of it. -/
theorem exists_of_on_bind {b : β} (h : (x >>= f).on σ = (.ok b, σ')) :
    ∃ a σ₁, x.on σ = (.ok a, σ₁) ∧ (f a).on σ₁ = (.ok b, σ') := by
  rw [on_bind] at h
  rcases hx : x.on σ with ⟨_ | a, σ₁⟩
  · rw [hx] at h
    exact absurd (Prod.mk.inj h).1 (by simp)
  · rw [hx] at h
    exact ⟨a, σ₁, rfl, h⟩

/-- Where a command with a second one behind it fails. -/
theorem of_on_bind_error {failure : Failure} (h : (x >>= f).on σ = (.error failure, σ')) :
    x.on σ = (.error failure, σ') ∨
      ∃ a σ₁, x.on σ = (.ok a, σ₁) ∧ (f a).on σ₁ = (.error failure, σ') := by
  rw [on_bind] at h
  rcases hx : x.on σ with ⟨failure' | a, σ₁⟩
  · rw [hx] at h
    obtain ⟨herror, hσ⟩ := Prod.mk.inj h
    rw [Except.error.inj herror, hσ]
    exact .inl rfl
  · rw [hx] at h
    exact .inr ⟨a, σ₁, rfl, h⟩

/-- The session afterwards, where the outcome is known. -/
theorem exists_of_on_fst {outcome : Except Failure α} (h : (x.on σ).1 = outcome) :
    ∃ σ', x.on σ = (outcome, σ') := ⟨(x.on σ).2, by rw [← h]⟩

theorem eq_of_on_pure {a b : α} (h : (pure a : Run α).on σ = (.ok b, σ')) : a = b ∧ σ = σ' :=
  ⟨Except.ok.inj (Prod.mk.inj h).1, (Prod.mk.inj h).2⟩

/-- The second command answers the failures of the first one. -/
theorem on_tryCatch (x : Run α) (answer : Failure → Run α) (σ : Session) :
    (tryCatch x answer : Run α).on σ =
      match x.on σ with
      | (.ok a, σ') => (.ok a, σ')
      | (.error failure, σ') => (answer failure).on σ' := by
  have hbind : ∀ k : Except Failure α → StateM Session (Except Failure α),
      (x.run >>= k : StateM Session (Except Failure α)) σ = k (x.on σ).1 (x.on σ).2 := fun _ => rfl
  have hrun : (tryCatch x answer : Run α).on σ = (tryCatch x answer : Run α).run σ := rfl
  rw [hrun, ExceptT.run_tryCatch, hbind]
  rcases x.on σ with ⟨_ | a, σ'⟩ <;> rfl

/-! ## What a command changes -/

/-- Whatever comes of it, the session after the command stands in a relation to the session before. -/
def Changes (R : Session → Session → Prop) (x : Run α) : Prop := ∀ σ, R σ (x.on σ).2

/-- The command leaves the files as they are. -/
def KeepsFiles : Run α → Prop := Changes fun σ σ' => σ'.files = σ.files

/-- The command changes nothing but the log. -/
def LogsOnly : Run α → Prop := Changes fun σ σ' => ∃ l, σ' = σ.withLog l

/-- The command changes nothing but standard output. -/
def PrintsOnly : Run α → Prop := Changes fun σ σ' => ∃ t, σ' = σ.printed t

/-- The command does not fail with a report. -/
def NeverReports (x : Run α) : Prop := ∀ σ r, (x.on σ).1 ≠ .error (.reported r)

/-- A command that fails with a report has left the files as they are. -/
def ReportsFirst (x : Run α) : Prop :=
  ∀ σ σ' r, x.on σ = (.error (.reported r), σ') → σ'.files = σ.files

section

variable {R : Session → Session → Prop} {γ : Type} {g : γ → Run Unit}

theorem Changes.of_eq (hx : Changes R x) {outcome : Except Failure α}
    (h : x.on σ = (outcome, σ')) : R σ σ' := by
  have hσ := hx σ
  rwa [h] at hσ

theorem changes_bind (htrans : ∀ {σ₁ σ₂ σ₃}, R σ₁ σ₂ → R σ₂ σ₃ → R σ₁ σ₃) (hx : Changes R x)
    (hf : ∀ a, Changes R (f a)) : Changes R (x >>= f) := by
  intro σ
  have hfirst := hx σ
  rw [on_bind]
  generalize x.on σ = first at hfirst
  obtain ⟨_ | a, σ'⟩ := first
  · exact hfirst
  · exact htrans hfirst (hf a σ')

theorem changes_forM (htrans : ∀ {σ₁ σ₂ σ₃}, R σ₁ σ₂ → R σ₂ σ₃ → R σ₁ σ₃) (hrefl : ∀ σ, R σ σ)
    (hg : ∀ c, Changes R (g c)) (cs : List γ) : Changes R (cs.forM g) := by
  induction cs with
  | nil => exact hrefl
  | cons c cs ih => exact changes_bind htrans (hg c) fun _ => ih

theorem changes_mapM {δ : Type} {k : γ → Run δ} (htrans : ∀ {σ₁ σ₂ σ₃}, R σ₁ σ₂ → R σ₂ σ₃ → R σ₁ σ₃)
    (hrefl : ∀ σ, R σ σ) {cs : List γ} (hk : ∀ c ∈ cs, Changes R (k c)) : Changes R (cs.mapM k) := by
  induction cs with
  | nil => exact hrefl
  | cons c cs ih =>
    rw [List.mapM_cons]
    refine changes_bind htrans (hk c List.mem_cons_self) fun _ => ?_
    exact changes_bind htrans (ih fun c' hc' => hk c' (List.mem_cons_of_mem _ hc')) fun _ => hrefl

theorem keepsFiles_bind (hx : KeepsFiles x) (hf : ∀ a, KeepsFiles (f a)) : KeepsFiles (x >>= f) :=
  changes_bind (fun h h' => h'.trans h) hx hf

theorem keepsFiles_forM (hg : ∀ c, KeepsFiles (g c)) (cs : List γ) : KeepsFiles (cs.forM g) :=
  changes_forM (fun h h' => h'.trans h) (fun _ => by rfl) hg cs

theorem logsOnly_bind (hx : LogsOnly x) (hf : ∀ a, LogsOnly (f a)) : LogsOnly (x >>= f) :=
  changes_bind (fun ⟨_, h⟩ ⟨l', h'⟩ => ⟨l', by rw [h', h]; rfl⟩) hx hf

theorem printsOnly_bind (hx : PrintsOnly x) (hf : ∀ a, PrintsOnly (f a)) : PrintsOnly (x >>= f) :=
  changes_bind (fun ⟨t, h⟩ ⟨t', h'⟩ => ⟨t ++ t', by rw [h', h, Session.printed_printed]⟩) hx hf

end

theorem LogsOnly.keepsFiles (hx : LogsOnly x) : KeepsFiles x := by
  intro σ
  obtain ⟨l, hl⟩ := hx σ
  rw [hl]
  rfl

theorem PrintsOnly.keepsFiles (hx : PrintsOnly x) : KeepsFiles x := by
  intro σ
  obtain ⟨t, ht⟩ := hx σ
  rw [ht]
  rfl

theorem KeepsFiles.reportsFirst (hx : KeepsFiles x) : ReportsFirst x := fun _ _ _ => Changes.of_eq hx

theorem NeverReports.reportsFirst (hx : NeverReports x) : ReportsFirst x :=
  fun _ _ _ h => absurd (Prod.ext_iff.1 h).1 (hx _ _)

theorem neverReports_bind (hx : NeverReports x) (hf : ∀ a, NeverReports (f a)) :
    NeverReports (x >>= f) := by
  intro σ r h
  rw [on_bind_fst] at h
  cases hfirst : (x.on σ).1 with
  | error failure =>
    rw [hfirst] at h
    have hfailure : failure = .reported r := Except.error.inj h
    exact hx σ r (hfirst.trans (congrArg _ hfailure))
  | ok a =>
    rw [hfirst] at h
    exact hf a _ r h

/-- Behind a command that keeps the files. -/
theorem reportsFirst_bind (hx : KeepsFiles x) (hf : ∀ a, ReportsFirst (f a)) :
    ReportsFirst (x >>= f) := by
  intro σ σ' r h
  obtain h | ⟨a, σ₁, hfirst, h⟩ := of_on_bind_error h
  · exact Changes.of_eq hx h
  · exact (hf _ _ _ _ h).trans (Changes.of_eq hx hfirst)

theorem logsOnly_of_eq (h : ∀ σ, (x.on σ).2 = σ) : LogsOnly x := fun σ => ⟨σ.log, h σ⟩

theorem logsOnly_log (event : LogEvent) : LogsOnly (log event) := fun σ => σ.exists_logged_eq event

theorem keepsFiles_pure (a : α) : KeepsFiles (pure a : Run α) := fun _ => rfl

theorem keepsFiles_throw (failure : Failure) : KeepsFiles (throw failure : Run α) := fun _ => rfl

theorem keepsFiles_get : KeepsFiles (get : Run Session) := fun _ => rfl

/-- What does not fail does not report. -/
theorem neverReports_of_ok (h : ∀ σ, ∃ a, (x.on σ).1 = .ok a) : NeverReports x := by
  intro σ r hfails
  obtain ⟨a, ha⟩ := h σ
  exact absurd (ha.symm.trans hfails) (by simp)

theorem neverReports_pure (a : α) : NeverReports (pure a : Run α) :=
  neverReports_of_ok fun _ => ⟨a, rfl⟩

theorem neverReports_breakWith (cause : Breakdown) : NeverReports (breakWith cause : Run α) :=
  fun _ _ h => absurd (Except.error.inj h) (by simp)

theorem neverReports_get : NeverReports (get : Run Session) := neverReports_of_ok fun σ => ⟨σ, rfl⟩

theorem neverReports_set (σ : Session) : NeverReports (set σ : Run Unit) :=
  neverReports_of_ok fun _ => ⟨⟨⟩, rfl⟩

theorem neverReports_modify (g : Session → Session) : NeverReports (modify g : Run Unit) :=
  neverReports_of_ok fun _ => ⟨⟨⟩, rfl⟩

theorem neverReports_forM {γ : Type} {g : γ → Run Unit} (hg : ∀ c, NeverReports (g c))
    (cs : List γ) : NeverReports (cs.forM g) := by
  induction cs with
  | nil => exact neverReports_pure ()
  | cons c cs ih => exact neverReports_bind (hg c) fun _ => ih

/-! ## Logging and printing -/

theorem keepsFiles_log (event : LogEvent) : KeepsFiles (log event) := (logsOnly_log event).keepsFiles

/-- A text is printed as a whole, or not at all. -/
theorem print_on (t : Text) (σ : Session) :
    (print t).on σ =
      if t.all σ.platform.takes = true then (.ok (), σ.printed t)
      else (.error (.broken .unencodable), σ) := by
  rw [print, on_bind_ok (on_get σ)]
  split <;> rfl

theorem print_on_iff {t : Text} :
    (print t).on σ = (.ok (), σ') ↔ t.all σ.platform.takes = true ∧ σ' = σ.printed t := by
  rw [print_on]
  split
  · next h => simp [h, eq_comm]
  · next h => simp [h]

theorem printsOnly_print (t : Text) : PrintsOnly (print t) := by
  intro σ
  rw [print_on]
  split
  · exact ⟨t, rfl⟩
  · exact ⟨[], σ.printed_nil.symm⟩

theorem keepsFiles_printError (t : Text) : KeepsFiles (printError t) := fun _ => rfl

theorem neverReports_log (event : LogEvent) : NeverReports (log event) := neverReports_modify _

theorem neverReports_print (t : Text) : NeverReports (print t) := by
  intro σ r
  rw [print_on]
  split <;> simp

theorem printsOnly_printShown (outcome : Except Breakdown Text) : PrintsOnly (printShown outcome) := by
  cases outcome with
  | ok t => exact printsOnly_print t
  | error cause => exact fun σ => ⟨[], σ.printed_nil.symm⟩

theorem neverReports_printShown (outcome : Except Breakdown Text) : NeverReports (printShown outcome) := by
  cases outcome with
  | ok t => exact neverReports_print t
  | error cause => exact neverReports_breakWith _

theorem printsOnly_get : PrintsOnly (get : Run Session) := fun σ => ⟨[], σ.printed_nil.symm⟩

theorem printsOnly_sayTable (table : Layout.Table) : PrintsOnly (sayTable table) :=
  printsOnly_bind printsOnly_get fun _ => printsOnly_print _

theorem printsOnly_say (message : Text) : PrintsOnly (say message) :=
  printsOnly_bind printsOnly_get fun _ => printsOnly_printShown _

theorem neverReports_say (message : Text) : NeverReports (say message) :=
  neverReports_bind neverReports_get fun _ => neverReports_printShown _

/-- A message that is printed adds what becomes of it to standard output, and does nothing else. -/
theorem say_on_iff {message : Text} :
    (say message).on σ = (.ok (), σ') ↔ ∃ t, σ.platform.Prints message t ∧ σ' = σ.printed t := by
  rw [say, on_bind_ok (on_get σ)]
  cases hshown : σ.platform.console.text message with
  | ok t =>
    refine print_on_iff.trans ⟨fun ⟨htakes, hσ⟩ => ⟨t, ⟨hshown, htakes⟩, hσ⟩, ?_⟩
    rintro ⟨t', ⟨ht', htakes⟩, hσ⟩
    obtain rfl := Except.ok.inj (hshown.symm.trans ht')
    exact ⟨htakes, hσ⟩
  | error cause =>
    refine iff_of_false (fun h => absurd (Prod.mk.inj h).1 (by simp)) ?_
    rintro ⟨t, ⟨ht, -⟩, -⟩
    exact absurd (hshown.symm.trans ht) (by simp)

/-- Messages of one kind are printed one below the other. -/
theorem forM_say_on_iff {line : Text → Text} {messages : List Text} :
    (messages.forM fun message => say (line message)).on σ = (.ok (), σ') ↔
      ∃ lines, List.Forall₂ (fun message => σ.platform.Prints (line message)) messages lines ∧
        σ' = σ.printed lines.flatten := by
  induction messages generalizing σ with
  | nil =>
    constructor
    · intro h
      obtain ⟨-, rfl⟩ := eq_of_on_pure h
      exact ⟨[], .nil, σ.printed_nil.symm⟩
    · rintro ⟨lines, hlines, rfl⟩
      cases hlines
      rw [List.flatten_nil, σ.printed_nil]
      rfl
  | cons message messages ih =>
    constructor
    · intro h
      obtain ⟨⟨⟩, σ₁, hsay, hrest⟩ := exists_of_on_bind h
      obtain ⟨t, ht, rfl⟩ := say_on_iff.1 hsay
      obtain ⟨lines, hlines, rfl⟩ := ih.1 hrest
      exact ⟨t :: lines, .cons ht hlines, σ.printed_printed t lines.flatten⟩
    · rintro ⟨lines, hlines, rfl⟩
      cases hlines with
      | @cons _ t _ lines ht hlines =>
        refine (on_bind_ok (say_on_iff.2 ⟨t, ht, rfl⟩)).trans (ih.2 ⟨lines, hlines, ?_⟩)
        exact (σ.printed_printed t lines.flatten).symm

/-! ## Files -/

theorem makeDirectories_on (path : Path) (σ : Session) :
    (makeDirectories path).on σ =
      ((σ.files.makeDirectories σ.home path).1.mapError fun fault =>
          .broken (fileBreakdown path fault),
        σ.withFiles (σ.files.makeDirectories σ.home path).2) := by
  rw [makeDirectories, on_bind_ok (on_get σ)]
  rcases σ.files.makeDirectories σ.home path with ⟨_ | _, files⟩ <;> rfl

theorem writeFile_on (path : Path) (contents : ByteArray) (σ : Session) :
    (writeFile path contents).on σ =
      match σ.files.writeFile σ.home path contents with
      | .ok files => (.ok (), σ.withFiles files)
      | .error fault => (.error (.broken (fileBreakdown path fault)), σ) := by
  rw [writeFile, on_bind_ok (on_get σ)]
  cases σ.files.writeFile σ.home path contents <;> rfl

/-- Behind a file that has been put, with the directories above it. -/
theorem exists_of_put {path : Path} {contents : ByteArray} {f : Unit → Run β} {b : β}
    (h : (makeDirectories path.parent >>= fun _ => writeFile path contents >>= f).on σ =
      (.ok b, σ')) :
    ∃ files, σ.files.put σ.home path contents = .ok files ∧
      (f ()).on (σ.withFiles files) = (.ok b, σ') := by
  obtain ⟨⟨⟩, σ₁, hmake, hrest⟩ := exists_of_on_bind h
  obtain ⟨⟨⟩, σ₂, hwrite, hrest⟩ := exists_of_on_bind hrest
  rw [makeDirectories_on] at hmake
  obtain ⟨hmade, rfl⟩ := Prod.mk.inj hmake
  rw [writeFile_on] at hwrite
  split at hwrite
  · next files heq =>
    have hdirectories : σ.files.makeDirectories σ.home path.parent =
        (.ok (), (σ.files.makeDirectories σ.home path.parent).2) :=
      Prod.ext (eq_ok_of_mapError_eq_ok hmade) rfl
    obtain rfl := (Prod.mk.inj hwrite).2
    refine ⟨files, ?_, hrest⟩
    rw [FileTree.put, hdirectories]
    exact heq
  · exact absurd (Prod.mk.inj hwrite).1 (by simp)

theorem neverReports_makeDirectories (path : Path) : NeverReports (makeDirectories path) := by
  refine neverReports_bind neverReports_get fun s => neverReports_bind (neverReports_set _) fun _ => ?_
  split
  · exact neverReports_pure _
  · exact neverReports_breakWith _

theorem neverReports_writeFile (path : Path) (contents : ByteArray) :
    NeverReports (writeFile path contents) := by
  refine neverReports_bind neverReports_get fun s => ?_
  split
  · exact neverReports_set _
  · exact neverReports_breakWith _

end Run
end DashboardSynthesis
