import DashboardSynthesis.Proofs.Dashboard.Confinement
import DashboardSynthesis.Proofs.Synthesis.Links

/-!
# What stays of the files that were written

Files are told apart by the texts of their paths, but it is the place where a path leads that decides what
is read there: two texts may lead to one place, and then the file that is written last stays.  So of files
written in order each is read back exactly if files at one place have the same contents
(`FileTree.forall_get?_putAll_iff`).

Both dashboards of an endpoint have different titles and therefore different contents, so they both stay
exactly if their paths lead to different places.  The paths agree but for one name, and they lead to
different places as long as the names behind it do not climb out of it again (`place_eq_place_iff`).
-/

namespace DashboardSynthesis

variable {tree between tree' : FileTree} {home loc : Location} {directory p : Path} {name : Text}
  {contents : ByteArray} {file : DashboardFile} {files : List DashboardFile}

/-! ## Places -/

/-- The place of a file below a directory. -/
def DashboardFile.place (directory : Path) (home : Location) (file : DashboardFile) : Location :=
  (directory.join (.ofText file.path)).location home

/-- Files at one place have the same contents. -/
def DashboardFile.AgreesWith (directory : Path) (home : Location) (file other : DashboardFile) : Prop :=
  file.place directory home = other.place directory home → file.contents = other.contents

instance (file other : DashboardFile) : Decidable (file.AgreesWith directory home other) :=
  inferInstanceAs (Decidable (_ → _))

theorem Path.EndsWith.getLast?_location (h : p.EndsWith name) : (p.location home).getLast? = some name := by
  obtain ⟨above, habove⟩ := List.getLast?_eq_some_iff.1 h.last
  rw [Path.location, habove, FileTree.follow_append, FileTree.follow, if_neg h.isNotParent,
    FileTree.follow, List.getLast?_concat]

namespace FileTree

theorem readFile_eq_ok_iff (hresolve : tree.resolve home p = .ok loc) :
    tree.readFile home p = .ok contents ↔ tree.get? loc = some (.file contents) := by
  constructor
  · intro hread
    obtain ⟨entry, hstatus, hfile⟩ := exists_of_bind_eq_ok hread
    rw [status_of_resolve hresolve] at hstatus
    cases hget : tree.get? loc with
    | none =>
      rw [hget] at hstatus
      exact absurd hstatus (by simp)
    | some there =>
      rw [hget] at hstatus
      obtain rfl := Except.ok.inj hstatus
      cases there with
      | directory => exact absurd hfile throw_ne_ok
      | file found => rw [Except.ok.inj hfile]
  · exact readFile_of_resolve hresolve

/-! ## Putting several files -/

/-- What putting the first file does. -/
theorem fileIsPut_first
    (h : tree.put home (directory.join (.ofText file.path)) file.contents = .ok between) :
    between.resolve home (directory.join (.ofText file.path)) = .ok (file.place directory home) ∧
      FileIsPut tree between (file.place directory home) file.contents := by
  obtain ⟨place, hresolve, hput⟩ := fileIsPut_of_put h
  obtain rfl := eq_location_of_resolve hresolve
  exact ⟨hresolve, hput⟩

theorem keepsDirectories_putAll (h : putAll home directory files tree = .ok tree') :
    KeepsDirectories tree tree' := by
  induction files generalizing tree with
  | nil =>
    obtain rfl := Except.ok.inj h
    exact (Grows.refl tree).keepsDirectories
  | cons file files ih =>
    obtain ⟨between, hfirst, hrest⟩ := exists_of_putAll_cons h
    obtain ⟨-, hput⟩ := fileIsPut_first hfirst
    intro loc hdir
    exact ih hrest loc (hput.keepsDirectories loc hdir)

/-- The paths of files that were put lead to their places. -/
theorem resolve_putAll (h : putAll home directory files tree = .ok tree') (hfile : file ∈ files) :
    tree'.resolve home (directory.join (.ofText file.path)) = .ok (file.place directory home) := by
  induction files generalizing tree with
  | nil => exact absurd hfile List.not_mem_nil
  | cons first files ih =>
    obtain ⟨between, hfirst, hrest⟩ := exists_of_putAll_cons h
    obtain rfl | hfile := List.mem_cons.1 hfile
    · obtain ⟨hresolve, -⟩ := fileIsPut_first hfirst
      exact resolve_of_keepsDirectories (keepsDirectories_putAll hrest) hresolve
    · exact ih hrest hfile

/-- A file stays while files are put elsewhere, and while the same is put at its place. -/
theorem get?_putAll (h : putAll home directory files tree = .ok tree')
    (hsame : ∀ file ∈ files, file.place directory home = loc → file.contents = contents)
    (hthere : tree.get? loc = some (.file contents)) : tree'.get? loc = some (.file contents) := by
  induction files generalizing tree with
  | nil =>
    obtain rfl := Except.ok.inj h
    exact hthere
  | cons file files ih =>
    obtain ⟨between, hfirst, hrest⟩ := exists_of_putAll_cons h
    obtain ⟨-, hput⟩ := fileIsPut_first hfirst
    refine ih hrest (fun other hother => hsame other (List.mem_cons_of_mem _ hother)) ?_
    by_cases hplace : file.place directory home = loc
    · have hcontents := hsame file List.mem_cons_self hplace
      rw [← hplace, ← hcontents]
      exact hput.isThere
    · exact hput.get?_of_ne (Ne.symm hplace) hthere

/-- **Of files put in order each one is there in the end exactly if files at one place agree.** -/
theorem forall_get?_putAll_iff (h : putAll home directory files tree = .ok tree') :
    (∀ file ∈ files, tree'.get? (file.place directory home) = some (.file file.contents)) ↔
      files.Pairwise (DashboardFile.AgreesWith directory home) := by
  constructor
  · intro hthere
    refine List.pairwise_of_forall_mem_list fun file hfile other hother hplace => ?_
    have hfirst := hthere file hfile
    rw [hplace, hthere other hother] at hfirst
    exact (Entry.file.inj (Option.some_inj.1 hfirst)).symm
  · intro hagree
    induction files generalizing tree with
    | nil => exact fun file hfile => absurd hfile List.not_mem_nil
    | cons first files ih =>
      obtain ⟨between, hput, hrest⟩ := exists_of_putAll_cons h
      obtain ⟨hfirst, hagree⟩ := List.pairwise_cons.1 hagree
      have hbehind := ih hrest hagree
      intro file hfile
      obtain rfl | hfile := List.mem_cons.1 hfile
      · -- what is put later at the same place has the same contents
        have hsame : ∀ other ∈ files, other.place directory home = file.place directory home →
            other.contents = file.contents :=
          fun other hother hplace => (hfirst other hother hplace.symm).symm
        exact get?_putAll hrest hsame (fileIsPut_first hput).2.isThere
      · exact hbehind file hfile

end FileTree

/-! ## Writing files and reading them -/

namespace DashboardFile

variable {paths : List Path} {σ σ' : Session}

/-- Under the path of each file its contents are read. -/
def AreRead (σ : Session) (files : List DashboardFile) (paths : List Path) : Prop :=
  List.Forall₂ (fun file path => σ.files.readFile σ.home path = .ok file.contents) files paths

theorem areRead_iff (h : (writeAll directory files).on σ = (.ok paths, σ')) :
    AreRead σ' files paths ↔ files.Pairwise (AgreesWith directory σ.home) := by
  obtain ⟨rfl, tree, l, hput, rfl⟩ := of_writeAll h
  rw [AreRead, List.forall₂_map_right_iff, List.forall₂_same, ← FileTree.forall_get?_putAll_iff hput]
  refine forall₂_congr fun file hfile => ?_
  exact FileTree.readFile_eq_ok_iff (FileTree.resolve_putAll hput hfile)

/-! ### Names without separators -/

/-- A file whose name has no separator in it. -/
def IsPlain (file : DashboardFile) : Prop :=
  ∃ (flavor : Flavor) (name : Text), .scalar '/' ∉ name ∧ file.path = flavor.path name

/-- With plain names different paths lead to different places. -/
theorem IsPlain.path_eq {file other : DashboardFile} (h : file.IsPlain) (h' : other.IsPlain)
    (hplace : file.place directory home = other.place directory home) : file.path = other.path := by
  obtain ⟨flavor, name, hname, hpath⟩ := h
  obtain ⟨flavor', name', hname', hpath'⟩ := h'
  have hlast : ((directory.join (.ofText (flavor.path name))).location home).getLast? =
      some (flavor.fileName name) := (flavor.endsWith_join hname directory).getLast?_location
  have hlast' : ((directory.join (.ofText (flavor'.path name'))).location home).getLast? =
      some (flavor'.fileName name') := (flavor'.endsWith_join hname' directory).getLast?_location
  rw [place, place, hpath, hpath'] at hplace
  rw [hplace, hlast'] at hlast
  rw [hpath, hpath', flavor.path_eq, flavor'.path_eq, Option.some_inj.1 hlast]

end DashboardFile

/-! ## Both dashboards of an endpoint -/

/-- The paths of an endpoint lead through one name of their own. -/
theorem Flavor.exists_location_eq (flavor : Flavor) (endpoint : Text) :
    ∃ name : Text, name.head? = (flavor.fileName endpoint).head? ∧ ∀ (directory : Path) (home : Location),
      (directory.join (.ofText (flavor.path endpoint))).location home =
        FileTree.follow ((directory.join ⟨[], ["dashboards"]⟩).location home ++ [name])
          (namesBehind endpoint) := by
  obtain ⟨name, hname, hhead, hpath⟩ := flavor.exists_ofText_path_eq endpoint
  refine ⟨name, hhead, fun directory home => ?_⟩
  have hbehind : directory.names ++ ("dashboards" : Text) :: name :: namesBehind endpoint =
      (directory.names ++ [("dashboards" : Text)]) ++ ([name] ++ namesBehind endpoint) := by simp
  have hdown : ∀ base : Location, FileTree.follow base [name] = base ++ [name] := by
    intro base
    rw [FileTree.follow, if_neg hname]
    rfl
  rw [hpath, Path.join_of_root_eq_nil rfl, Path.join_of_root_eq_nil rfl, Path.location, Path.location,
    hbehind, FileTree.follow_append, FileTree.follow_append, hdown]
  rfl

/-- The paths of both dashboards lead to one place exactly if the names behind the first separator climb
out of the directories that tell them apart. -/
theorem location_eq_location_iff (endpoint : Text) (directory : Path) (home : Location) :
    (directory.join (.ofText (Flavor.operational.path endpoint))).location home =
        (directory.join (.ofText (Flavor.ruleUnit.path endpoint))).location home ↔
      ¬ FileTree.StaysWithin 0 (namesBehind endpoint) := by
  obtain ⟨name, hhead, hlocation⟩ := Flavor.operational.exists_location_eq endpoint
  obtain ⟨name', hhead', hlocation'⟩ := Flavor.ruleUnit.exists_location_eq endpoint
  have hne : [name] ≠ [name'] := by
    intro heq
    rw [(List.cons.inj heq).1, hhead'] at hhead
    exact Flavor.head?_fileName_ne endpoint hhead.symm
  rw [hlocation, hlocation']
  generalize (directory.join ⟨[], ["dashboards"]⟩).location home = base
  constructor
  · intro heq hstays
    have hbelow : base ++ [name] <+: FileTree.follow (base ++ [name]) (namesBehind endpoint) :=
      FileTree.prefix_follow_zero hstays
    have hbelow' : base ++ [name'] <+: FileTree.follow (base ++ [name']) (namesBehind endpoint) :=
      FileTree.prefix_follow_zero hstays
    rw [← heq] at hbelow'
    have hsame := List.prefix_of_prefix_length_le hbelow hbelow' (by simp)
    exact hne (List.append_cancel_left (hsame.eq_of_length (by simp)))
  · intro hclimbs
    obtain ⟨behind, hbehind⟩ := FileTree.exists_follow_eq hclimbs
    have hfollow : ∀ other : Text, FileTree.follow (base ++ [other]) (namesBehind endpoint) =
        FileTree.follow base behind := by
      intro other
      have hclimb := hbehind (base ++ [other]) [] rfl
      rwa [List.append_nil, List.dropLast_concat] at hclimb
    rw [hfollow, hfollow]

namespace DashboardFile

variable {paths : List Path} {σ σ₁ σ' : Session} {r : EndpointRequest}

/-- Both dashboards of an endpoint have different contents. -/
theorem exists_of_endpointDashboards {synthesizer : Run Synthesizer}
    (h : (endpointDashboards synthesizer r).on σ = (.ok files, σ₁)) :
    ∃ bytes bytes', files = [⟨Flavor.operational.path r.endpoint, bytes⟩,
      ⟨Flavor.ruleUnit.path r.endpoint, bytes'⟩] ∧ bytes ≠ bytes' := by
  obtain ⟨settings, σ₂, -, hrest⟩ := Run.exists_of_on_bind h
  obtain ⟨s, σ₃, -, hrest⟩ := Run.exists_of_on_bind hrest
  obtain ⟨text, σ₄, hoperational, hrest⟩ := Run.exists_of_on_bind hrest
  obtain ⟨text', σ₅, hdomain, hrest⟩ := Run.exists_of_on_bind hrest
  obtain ⟨file, σ₆, hfile, hrest⟩ := Run.exists_of_on_bind hrest
  obtain ⟨file', σ₇, hfile', hpure⟩ := Run.exists_of_on_bind hrest
  obtain ⟨bytes, hbytes, rfl, -⟩ := of_ofDashboard hfile
  obtain ⟨bytes', hbytes', rfl, -⟩ := of_ofDashboard hfile'
  obtain ⟨rfl, -⟩ := Run.eq_of_on_pure hpure
  have hpath : r.domainFlavor.path r.endpoint = Flavor.ruleUnit.path r.endpoint := by
    rw [EndpointRequest.domainFlavor]
    cases r.decisions <;> rfl
  refine ⟨bytes, bytes', by rw [hpath], ?_⟩
  rintro rfl
  -- the same bytes are the same text, and then the titles are the same
  have hdecode := Text.decode?_of_encode? hbytes
  rw [Text.decode?_of_encode? hbytes'] at hdecode
  obtain rfl := Option.some_inj.1 hdecode
  obtain ⟨dashboard, hparse, htitle⟩ := Synthesizer.title_of_dashboard hoperational
  obtain ⟨dashboard', hparse', htitle'⟩ := Synthesizer.title_of_dashboard hdomain
  obtain rfl := Except.ok.inj (hparse.symm.trans hparse')
  rw [htitle] at htitle'
  have htitles := Json.str.inj (Option.some_inj.1 htitle')
  have hend := List.append_cancel_left htitles
  have hdomainEnd : r.domainFlavor.titleEnd = "Domain Dashboard" := by
    rw [EndpointRequest.domainFlavor]
    cases r.decisions <;> rfl
  rw [hdomainEnd] at hend
  exact absurd hend (by decide)

/-- A session without files. -/
def bareSession : Session := { files := .empty, home := [] }

/-- Two texts of one path with the same contents, and a third file. -/
def agreeingFiles : List DashboardFile :=
  [⟨operationalPath "a//b", "one".toUTF8⟩, ⟨domainPath "a", "two".toUTF8⟩,
    ⟨operationalPath "a/./b", "one".toUTF8⟩]

/-- Both files of a plain name. -/
def plainFiles : List DashboardFile :=
  [⟨operationalPath "loans", "one".toUTF8⟩, ⟨domainPath "loans", "two".toUTF8⟩]

theorem isPlain_of_mem_plainFiles (h : file ∈ plainFiles) : file.IsPlain := by
  obtain rfl | rfl := List.mem_pair.1 h
  · exact ⟨.operational, "loans", by decide, rfl⟩
  · exact ⟨.ruleUnit, "loans", by decide, rfl⟩

/-- A session in which both templates are an empty dashboard. -/
def templateSession : Session :=
  { files := ⟨[(["t"], .file "\x7b\x7d".toUTF8)]⟩
    home := []
    environment := [("DECISIONDASH_OPERATIONAL_TEMPLATE", "t"), ("DECISIONDASH_DOMAIN_TEMPLATE", "t")] }

/-- The names of this endpoint climb as far up as they have led down. -/
def climbingRequest : EndpointRequest := { endpoint := "a/b/../c", build := ⟨"a", "1"⟩ }

theorem exists_on_eq_ok {α : Type} {x : Run α} (h : (x.on σ).1.isOk = true) :
    ∃ a σ', x.on σ = (.ok a, σ') := by
  obtain ⟨a, ha⟩ := exists_eq_ok_of_isOk h
  exact ⟨a, (x.on σ).2, Prod.ext ha rfl⟩

end DashboardFile
end DashboardSynthesis
