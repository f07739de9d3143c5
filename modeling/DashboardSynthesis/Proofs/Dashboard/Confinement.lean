import DashboardSynthesis.Proofs.Command.EndpointFiles
import DashboardSynthesis.Proofs.FileTree.Climbing

/-!
# Files below the directory for output

The files of dashboards are put below a directory, but the name of the endpoint is part of their paths, and
a name `..` in it leads upwards.  If it never leads above the directory nothing changes outside of it, but
that the directory itself and those above it are made where they are missing (`isConfined_writeAll`).  The
two names in front of the separators of the endpoint give it two levels to climb, and with more it leaves
the directory of somebody (`writeBoth_isConfined`).
-/

namespace DashboardSynthesis

variable {loc : Location}

/-! ## What is done below a directory -/

/-- Nothing changes outside of a directory, but that directories on the way to it may be new.  Without `..` in
the path these are the directories above it (`Path.LeadsThrough.prefix_location`). -/
structure IsConfined (directory : Path) (before after : Session) : Prop where
  home : after.home = before.home
  others : ∀ loc, ¬ directory.location before.home <+: loc →
    after.files.get? loc = before.files.get? loc ∨
      directory.LeadsThrough before.home loc ∧ before.files.get? loc = none ∧
        after.files.get? loc = some .directory

section

variable {directory : Path} {σ σ₁ σ₂ σ₃ : Session}

theorem isConfined_of_files_eq (hhome : σ₂.home = σ₁.home) (hfiles : σ₂.files = σ₁.files) :
    IsConfined directory σ₁ σ₂ :=
  ⟨hhome, fun _ _ => .inl (by rw [hfiles])⟩

theorem IsConfined.trans (h : IsConfined directory σ₁ σ₂) (h' : IsConfined directory σ₂ σ₃) :
    IsConfined directory σ₁ σ₃ := by
  refine ⟨h'.home.trans h.home, fun loc houtside => ?_⟩
  have hsecond := h'.others loc (by rwa [h.home])
  rw [h.home] at hsecond
  obtain hfirst | ⟨hleads, hnone, hdir⟩ := h.others loc houtside
  · rwa [hfirst] at hsecond
  · obtain hsame | ⟨-, hnone', -⟩ := hsecond
    · exact .inr ⟨hleads, hnone, hsame.trans hdir⟩
    · rw [hnone'] at hdir
      exact absurd hdir (by simp)

theorem isConfined_makeDirectories {p : Path} (h : p.IsBelow) :
    Run.Changes (IsConfined directory) (Run.makeDirectories (directory.join p).parent) := by
  intro σ
  rw [Run.makeDirectories_on]
  refine ⟨rfl, fun loc houtside => ?_⟩
  by_cases hleads : (directory.join p).parent.LeadsThrough σ.home loc
  · obtain hsame | ⟨hnone, hdir⟩ :=
      FileTree.grows_makeDirectories σ.files σ.home (directory.join p).parent loc
    · exact .inl hsame
    · obtain habove | hbelow := h.leadsThrough_or (Path.leadsThrough_of_parent hleads)
      · exact .inr ⟨habove, hnone, hdir⟩
      · exact absurd hbelow houtside
  · exact .inl (FileTree.get?_makeDirectories hleads)

theorem isConfined_writeFile {p : Path} (h : p.IsBelow) (contents : ByteArray) :
    Run.Changes (IsConfined directory) (Run.writeFile (directory.join p) contents) := by
  intro σ
  rw [Run.writeFile_on]
  split
  · next files hwrite =>
    refine ⟨rfl, fun loc houtside => .inl (FileTree.get?_writeFile hwrite ?_)⟩
    rintro rfl
    exact houtside h.prefix_location
  · exact isConfined_of_files_eq rfl rfl

theorem isConfined_log (event : LogEvent) : Run.Changes (IsConfined directory) (Run.log event) := by
  intro σ
  obtain ⟨l, hl⟩ := Run.logsOnly_log event σ
  rw [hl]
  exact isConfined_of_files_eq rfl rfl

namespace DashboardFile

variable {file : DashboardFile} {files : List DashboardFile}

theorem isConfined_write (h : (Path.ofText file.path).IsBelow) :
    Run.Changes (IsConfined directory) (write directory file) := by
  refine Run.changes_bind IsConfined.trans (isConfined_makeDirectories h) fun _ => ?_
  refine Run.changes_bind IsConfined.trans (isConfined_writeFile h _) fun _ => ?_
  exact Run.changes_bind IsConfined.trans (isConfined_log _) fun _ _ => isConfined_of_files_eq rfl rfl

/-- **Files whose paths lead nowhere else are confined to the directory below which they are written**,
also where writing them fails. -/
theorem isConfined_writeAll (h : ∀ file ∈ files, (Path.ofText file.path).IsBelow) :
    Run.Changes (IsConfined directory) (writeAll directory files) := by
  rw [writeAll]
  exact Run.changes_mapM (fun h h' => h.trans h') (fun _ => isConfined_of_files_eq rfl rfl)
    fun file hfile => isConfined_write (h file hfile)

end DashboardFile
end

/-! ## Both files of an endpoint -/

theorem Flavor.isBelow_path_iff (flavor : Flavor) (endpoint : Text) :
    (Path.ofText (flavor.path endpoint)).IsBelow ↔ FileTree.StaysWithin 2 (namesBehind endpoint) := by
  obtain ⟨name, hname, -, hpath⟩ := flavor.exists_ofText_path_eq endpoint
  have hstays : FileTree.StaysWithin 0 (("dashboards" : Text) :: name :: namesBehind endpoint) ↔
      FileTree.StaysWithin 2 (namesBehind endpoint) := by
    rw [FileTree.staysWithin_name_iff (by decide), FileTree.staysWithin_name_iff hname]
  rw [hpath, ← hstays]
  exact ⟨fun h => h.stays, fun h => ⟨rfl, h⟩⟩

namespace DashboardFile

variable {directory : Path} {file : DashboardFile} {files : List DashboardFile} {endpoint : Text}
  {σ : Session}

/-- Makes the files of both dashboards of an endpoint and writes them below a directory. -/
def writeBoth (directory : Path) (endpoint operational domain : Text) : Run (List Path) := do
  let files := [← ofDashboard .operational endpoint operational, ← ofDashboard .ruleUnit endpoint domain]
  writeAll directory files

/-- Both files are made before the first one is written. -/
theorem writeBoth_on (directory : Path) (endpoint operational domain : Text) (σ : Session) :
    (writeBoth directory endpoint operational domain).on σ =
      match operational.encode?, domain.encode? with
      | some bytes, some bytes' =>
        (writeAll directory
          [⟨Flavor.operational.path endpoint, bytes⟩, ⟨Flavor.ruleUnit.path endpoint, bytes'⟩]).on σ
      | _, _ => (.error (.broken .unencodable), σ) := by
  rw [writeBoth, Run.on_bind, ofDashboard_on]
  cases operational.encode? with
  | none => rfl
  | some bytes =>
    dsimp only
    rw [Run.on_bind, ofDashboard_on]
    cases domain.encode? <;> rfl

/-- If the names of the endpoint climb two levels at most, both files are confined. -/
theorem isConfined_writeBoth (h : FileTree.StaysWithin 2 (namesBehind endpoint))
    (operational domain : Text) :
    Run.Changes (IsConfined directory) (writeBoth directory endpoint operational domain) := by
  intro σ
  rw [writeBoth_on]
  split
  · refine isConfined_writeAll (fun file hfile => ?_) σ
    rw [List.mem_pair] at hfile
    obtain rfl | rfl := hfile
    · exact (Flavor.operational.isBelow_path_iff endpoint).2 h
    · exact (Flavor.ruleUnit.isBelow_path_iff endpoint).2 h
  · exact isConfined_of_files_eq rfl rfl

/-! ### Where names lead too far up -/

/-- What is there is not removed. -/
def KeepsThere (loc : Location) (before after : Session) : Prop :=
  before.files.get? loc ≠ none → after.files.get? loc ≠ none

theorem KeepsThere.trans {σ₁ σ₂ σ₃ : Session} (h : KeepsThere loc σ₁ σ₂) (h' : KeepsThere loc σ₂ σ₃) :
    KeepsThere loc σ₁ σ₃ := fun hthere => h' (h hthere)

theorem keepsThere_of_isKept {σ₁ σ₂ : Session} (h : FileTree.IsKept σ₁.files σ₂.files loc) :
    KeepsThere loc σ₁ σ₂ := by
  intro hthere
  obtain hsame | ⟨-, hdir⟩ := h
  · rwa [hsame]
  · rw [hdir]
    simp

theorem keepsThere_of_keepsFiles {α : Type} {x : Run α} (h : Run.KeepsFiles x) :
    Run.Changes (KeepsThere loc) x := fun σ => keepsThere_of_isKept (.inl (by rw [h σ]))

theorem keepsThere_makeDirectories (p : Path) :
    Run.Changes (KeepsThere loc) (Run.makeDirectories p) := by
  intro σ
  rw [Run.makeDirectories_on]
  exact keepsThere_of_isKept (FileTree.grows_makeDirectories σ.files σ.home p loc)

theorem keepsThere_writeFile (p : Path) (contents : ByteArray) :
    Run.Changes (KeepsThere loc) (Run.writeFile p contents) := by
  intro σ
  rw [Run.writeFile_on]
  split
  · next files hwrite =>
    obtain ⟨place, -, hput⟩ := FileTree.fileIsPut_of_writeFile hwrite
    by_cases hloc : loc = place
    · intro _
      show files.get? loc ≠ none
      rw [hloc, hput.isThere]
      simp
    · exact keepsThere_of_isKept (hput.others loc hloc)
  · exact fun hthere => hthere

theorem keepsThere_log (event : LogEvent) : Run.Changes (KeepsThere loc) (Run.log event) :=
  keepsThere_of_keepsFiles (Run.keepsFiles_log event)

/-- Behind a step that leaves something there. -/
theorem get?_bind_ne_none {α β : Type} {x : Run α} {f : α → Run β}
    (hx : (x.on σ).2.files.get? loc ≠ none) (hf : ∀ a, Run.Changes (KeepsThere loc) (f a)) :
    ((x >>= f).on σ).2.files.get? loc ≠ none := by
  rw [Run.on_bind]
  rcases hfirst : x.on σ with ⟨_ | a, σ'⟩
  · rwa [hfirst] at hx
  · rw [hfirst] at hx
    exact hf a σ' hx

theorem keepsThere_write (directory : Path) (file : DashboardFile) :
    Run.Changes (KeepsThere loc) (write directory file) :=
  Run.changes_bind KeepsThere.trans (keepsThere_makeDirectories _) fun _ =>
    Run.changes_bind KeepsThere.trans (keepsThere_writeFile _ _) fun _ =>
      Run.changes_bind KeepsThere.trans (keepsThere_log _) fun _ =>
        keepsThere_of_keepsFiles (Run.keepsFiles_pure _)

theorem keepsThere_writeAll (directory : Path) (files : List DashboardFile) :
    Run.Changes (KeepsThere loc) (writeAll directory files) := by
  rw [writeAll]
  exact Run.changes_mapM (fun h h' => h.trans h') (fun _ hthere => hthere) fun file _ =>
    keepsThere_write directory file

/-- Where nothing stands in the way something is there once a file has been written. -/
theorem get?_write_ne_none {p : Path} (hjoin : directory.join (.ofText file.path) = p)
    (hne : p.names ≠ []) (hstorable : p.IsStorable) (hclear : p.parent.IsClear σ.files σ.home) :
    ((write directory file).on σ).2.files.get? (p.location σ.home) ≠ none := by
  obtain ⟨between, hmade, hplace⟩ := FileTree.exists_writeFile hne hstorable hclear file.contents
  have hmake : (Run.makeDirectories p.parent).on σ = (.ok (), σ.withFiles between) := by
    rw [Run.makeDirectories_on, hmade]
    rfl
  rw [write, hjoin, Run.on_bind_ok hmake]
  refine get?_bind_ne_none ?_ fun _ => Run.changes_bind KeepsThere.trans (keepsThere_log _) fun _ =>
    keepsThere_of_keepsFiles (Run.keepsFiles_pure _)
  obtain hdirectory | ⟨after, hwrite, hfile⟩ := hplace
  · refine keepsThere_writeFile p file.contents (σ.withFiles between) ?_
    show between.get? (p.location σ.home) ≠ none
    rw [hdirectory]
    simp
  · rw [Run.writeFile_on, Session.withFiles_files, Session.withFiles_home, hwrite]
    show after.get? (p.location σ.home) ≠ none
    rw [hfile]
    simp

/-- The directory of a user, with nothing in it, as the current directory. -/
def atHome (user : Text) : Session := { files := ⟨[([user], .directory)]⟩, home := [user] }

theorem get?_atHome {user : Text} (hroot : loc ≠ []) (hhome : loc ≠ [user]) :
    (atHome user).files.get? loc = none := by
  rw [atHome, FileTree.get?, if_neg hroot]
  simp [Ne.symm hhome]

/-- Nothing stands in the way of what is put into the directory of a user. -/
theorem isClear_atHome (user : Text) {p : Path} (hroot : p.root = []) (hstorable : p.IsStorable) :
    p.IsClear (atHome user).files (atHome user).home := by
  refine ⟨hstorable, ?_, fun place contents _ => ?_⟩
  · rw [Path.start, hroot]
    simp [atHome, FileTree.get?]
  · by_cases hroot : place = []
    · rw [hroot]
      simp [FileTree.get?]
    · by_cases hhome : place = [user]
      · rw [hhome]
        simp [atHome, FileTree.get?]
      · rw [get?_atHome hroot hhome]
        simp

/-- A path that leads above the current directory leads out of the directory of somebody. -/
theorem exists_outside (h : ¬ FileTree.StaysWithin 2 (namesBehind endpoint)) :
    ∃ user : Text, ¬ [user] <+: (Path.ofText (operationalPath endpoint)).location [user] := by
  obtain ⟨name, hname, -, hpath⟩ := Flavor.operational.exists_ofText_path_eq endpoint
  rw [← Flavor.operational.isBelow_path_iff, hpath] at h
  obtain ⟨behind, hbehind⟩ := FileTree.exists_follow_eq fun hstays => h ⟨rfl, hstays⟩
  have hlocation : ∀ user : Text,
      (Path.ofText (operationalPath endpoint)).location [user] = FileTree.follow [] behind :=
    fun user => (congrArg (Path.location [user]) hpath).trans (hbehind [user] [] rfl)
  by_cases hfirst : [("o" : Text)] <+: FileTree.follow [] behind
  · refine ⟨"p", ?_⟩
    rw [hlocation]
    exact fun hsecond =>
      absurd (List.prefix_of_prefix_length_le hfirst hsecond (Nat.le_refl 1)) (by decide)
  · exact ⟨"o", by rwa [hlocation]⟩

theorem location_path_ne_nil (endpoint : Text) (home : Location) :
    (Path.ofText (operationalPath endpoint)).location home ≠ [] := by
  obtain ⟨above, last, hlast, hpath⟩ := Flavor.operational.exists_ofText_path_concat endpoint
  rw [Flavor.path] at hpath
  rw [hpath, Path.location_concat, FileTree.follow, if_neg hlast]
  simp [FileTree.follow]

/-- Something is put where the path of the operational dashboard leads. -/
theorem get?_writeBoth_ne_none (user : Text)
    (hstorable : (Path.ofText (operationalPath endpoint)).IsStorable) :
    ((writeBoth ⟨[], []⟩ endpoint [] []).on (atHome user)).2.files.get?
      ((Path.ofText (operationalPath endpoint)).location [user]) ≠ none := by
  obtain ⟨above, last, -, hpath⟩ := Flavor.operational.exists_ofText_path_concat endpoint
  rw [Flavor.path] at hpath
  have hparent : (Path.ofText (operationalPath endpoint)).parent = ⟨[], above⟩ := by
    rw [hpath, Path.parent, List.dropLast_concat]
  have hclear : (Path.ofText (operationalPath endpoint)).parent.IsClear (atHome user).files
      (atHome user).home := by
    rw [hparent]
    exact isClear_atHome user rfl (hpath ▸ hstorable).init
  rw [writeBoth_on]
  show ((writeAll ⟨[], []⟩ [⟨operationalPath endpoint, _⟩, ⟨domainPath endpoint, _⟩]).on
    (atHome user)).2.files.get? _ ≠ none
  rw [writeAll, List.mapM_cons]
  refine get?_bind_ne_none (get?_write_ne_none rfl ?_ hstorable hclear) fun _ => ?_
  · rw [hpath]
    simp
  · exact Run.changes_bind KeepsThere.trans (keepsThere_writeAll _ _) fun _ =>
      keepsThere_of_keepsFiles (Run.keepsFiles_pure _)

/-- **Both files of an endpoint are confined to the directory for output** whatever the directory, the
texts and the files there are, if the names of the endpoint climb two levels at most; and if the path can
be stored at all, only then. -/
theorem writeBoth_isConfined (endpoint : Text) :
    (FileTree.StaysWithin 2 (namesBehind endpoint) → ∀ directory operational domain,
      Run.Changes (IsConfined directory) (writeBoth directory endpoint operational domain)) ∧
    ((Path.ofText (operationalPath endpoint)).IsStorable →
      (∀ directory operational domain,
        Run.Changes (IsConfined directory) (writeBoth directory endpoint operational domain)) →
      FileTree.StaysWithin 2 (namesBehind endpoint)) := by
  refine ⟨fun h directory operational domain => isConfined_writeBoth h operational domain, ?_⟩
  intro hstorable hconfined
  by_contra hstays
  obtain ⟨user, houtside⟩ := exists_outside hstays
  have hhome : (Path.ofText (operationalPath endpoint)).location [user] ≠ [user] := by
    intro heq
    exact houtside (heq.symm ▸ List.prefix_rfl)
  have hnone := get?_atHome (location_path_ne_nil endpoint [user]) hhome
  obtain hsame | ⟨⟨trail, hprefix, hleads⟩, -⟩ :=
    (hconfined ⟨[], []⟩ [] [] (atHome user)).others _ houtside
  · exact get?_writeBoth_ne_none user hstorable (hsame.trans hnone)
  · rw [List.prefix_nil.1 hprefix] at hleads
    exact hhome hleads.symm

/-- The names may climb the two levels that stand in front of them. -/
theorem writeBoth_isConfined_climbing :
    FileTree.StaysWithin 2 (namesBehind "a/../../b") ∧
      (Path.ofText (operationalPath "a/../../b")).IsStorable ∧
      ∀ directory operational domain,
        Run.Changes (IsConfined directory) (writeBoth directory "a/../../b" operational domain) := by
  have hstorable : (Path.ofText (operationalPath "a/../../b")).IsStorable :=
    ⟨eq_ok_of_toOption_eq_some (by decide +kernel), by decide +kernel⟩
  have hconfined := (writeBoth_isConfined "a/../../b").1 (by decide +kernel)
  exact ⟨(writeBoth_isConfined "a/../../b").2 hstorable hconfined, hstorable, hconfined⟩

/-- With a third level they leave the directory for output. -/
theorem not_isConfined_writeBoth :
    ¬ Run.Changes (IsConfined (.ofText "o")) (writeBoth (.ofText "o") "/../../../x" "one" "two") := by
  intro h
  have hthere : (((writeBoth (.ofText "o") "/../../../x" "one" "two").on
      { files := .empty, home := [] }).2.files.get? ["x.json"]).isSome = true := by decide +kernel
  obtain hsame | ⟨hleads, -⟩ := (h { files := .empty, home := [] }).others ["x.json"] (by decide)
  · rw [hsame] at hthere
    exact absurd hthere (by decide)
  · exact absurd (hleads.prefix_location (by decide)) (by decide)

end DashboardFile
end DashboardSynthesis
