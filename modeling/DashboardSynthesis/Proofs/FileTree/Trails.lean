import DashboardSynthesis.Proofs.FileTree.LastName

/-!
# The trail of a path

There are no links in a tree, so where a path leads, if it leads anywhere, can be told from its names:
`..` leads one directory up, every other name one down (`follow`, `eq_location_of_resolve`).  The places that
the path leads to on the way are its trail (`Path.LeadsThrough`).

Making the directories of a path changes nothing beside its trail (`get?_makeDirectories`), whether it
succeeds or not.  If no file stands in the way it succeeds, and then the whole trail consists of
directories (`exists_makeDirectories`).
-/

namespace DashboardSynthesis

variable {tree tree' : FileTree} {home dir loc place : Location} {p : Path} {name : Text}
  {names : List Text} {contents : ByteArray}

/-! ## Following names -/

namespace FileTree

/-- Where names lead from a directory. -/
def follow (dir : Location) : List Text → Location
  | [] => dir
  | name :: names => follow (if name = ".." then dir.dropLast else dir ++ [name]) names

theorem follow_append (dir : Location) (names names' : List Text) :
    follow dir (names ++ names') = follow (follow dir names) names' := by
  induction names generalizing dir with
  | nil => rfl
  | cons name names ih => exact ih _

/-- Names that lead downwards only. -/
theorem prefix_follow_of_notMem (h : (".." : Text) ∉ names) : dir <+: follow dir names := by
  induction names generalizing dir with
  | nil => exact List.prefix_rfl
  | cons name names ih =>
    rw [List.mem_cons, not_or] at h
    rw [follow, if_neg (Ne.symm h.1)]
    exact (List.prefix_append dir [name]).trans (ih h.2)

theorem eq_follow_of_step (h : step dir name = .ok place) : place = follow dir [name] := by
  rw [step] at h
  rw [follow, follow]
  split at h
  · next hparent =>
    rw [if_pos hparent]
    exact (Except.ok.inj h).symm
  · next hparent =>
    rw [if_neg hparent]
    split at h
    · exact absurd h (by simp)
    · exact (Except.ok.inj h).symm

theorem step_eq_ok (h : bytesOf name ≤ nameLimit) : step dir name = .ok (follow dir [name]) := by
  rw [step, follow, follow]
  split
  · rfl
  · rw [if_neg (Nat.not_lt.2 h)]

theorem eq_follow_of_walk (h : tree.walk dir names = .ok place) : place = follow dir names := by
  induction names generalizing dir with
  | nil => exact (Except.ok.inj h).symm
  | cons name names ih =>
    obtain ⟨next, hstep, hrest⟩ := exists_of_bind_eq_ok h
    obtain rfl := eq_follow_of_step hstep
    split at hrest
    · exact absurd hrest (by simp)
    · exact absurd hrest (by simp)
    · exact ih hrest

end FileTree

/-! ## Locations and trails -/

namespace Path

/-- The directory from which a path is followed. -/
def start (home : Location) (p : Path) : Location := if p.root.isEmpty then home else []

/-- Where a path leads, if it leads anywhere. -/
def location (home : Location) (p : Path) : Location := FileTree.follow (p.start home) p.names

/-- A path leads to a place, in the end or on the way. -/
def LeadsThrough (home : Location) (p : Path) (loc : Location) : Prop :=
  ∃ names, names <+: p.names ∧ FileTree.follow (p.start home) names = loc

/-- Without `..` a path leads through nothing but the directories above the place where it ends. -/
theorem LeadsThrough.prefix_location (h : p.LeadsThrough home loc) (hdown : (".." : Text) ∉ p.names) :
    loc <+: p.location home := by
  obtain ⟨trail, ⟨behind, hnames⟩, rfl⟩ := h
  rw [location, ← hnames, FileTree.follow_append]
  rw [← hnames, List.mem_append, not_or] at hdown
  exact FileTree.prefix_follow_of_notMem hdown.2

theorem leadsThrough_location (home : Location) (p : Path) : p.LeadsThrough home (p.location home) :=
  ⟨p.names, List.prefix_rfl, rfl⟩

/-- The last of several names. -/
theorem location_concat (home : Location) (root : Text) (names : List Text) (name : Text) :
    (⟨root, names ++ [name]⟩ : Path).location home =
      FileTree.follow ((⟨root, names⟩ : Path).location home) [name] :=
  FileTree.follow_append _ names [name]

theorem leadsThrough_concat_iff {root : Text} :
    (⟨root, names ++ [name]⟩ : Path).LeadsThrough home loc ↔
      (⟨root, names⟩ : Path).LeadsThrough home loc ∨
        loc = (⟨root, names ++ [name]⟩ : Path).location home := by
  constructor
  · rintro ⟨trail, hprefix, rfl⟩
    obtain rfl | hprefix := List.prefix_concat_iff.1 hprefix
    · exact .inr rfl
    · exact .inl ⟨trail, hprefix, rfl⟩
  · rintro (⟨trail, hprefix, rfl⟩ | rfl)
    · exact ⟨trail, hprefix.trans (List.prefix_append _ _), rfl⟩
    · exact leadsThrough_location home _

end Path

namespace FileTree

/-- **Where a path leads depends on its names alone.** -/
theorem eq_location_of_resolve (h : tree.resolve home p = .ok place) : place = p.location home := by
  obtain ⟨⟨⟩, -, hrest⟩ := exists_of_bind_eq_ok h
  obtain ⟨above, hwalk, hlast⟩ := exists_of_bind_eq_ok hrest
  obtain rfl := eq_follow_of_walk hwalk
  rw [Path.location, Path.start]
  cases hname : p.names.getLast? with
  | none =>
    rw [hname] at hlast
    rw [List.getLast?_eq_none_iff] at hname
    rw [← Except.ok.inj hlast, hname]
    rfl
  | some name =>
    rw [hname] at hlast
    rw [eq_follow_of_step hlast, ← follow_append, List.dropLast_append_getLast? name hname]

/-! ## What stays as it is -/

theorem get?_writeFile (h : tree.writeFile home p contents = .ok tree') (hne : loc ≠ p.location home) :
    tree'.get? loc = tree.get? loc := by
  obtain ⟨place, hresolve, -, rfl⟩ := of_writeFile h
  obtain rfl := eq_location_of_resolve hresolve
  exact get?_set_of_ne tree hne _

theorem get?_makeDirectory (h : tree.makeDirectory home p = .ok tree') (hne : loc ≠ p.location home) :
    tree'.get? loc = tree.get? loc := by
  obtain ⟨place, hresolve, -, rfl⟩ := of_makeDirectory h
  obtain rfl := eq_location_of_resolve hresolve
  exact get?_set_of_ne tree hne _

theorem get?_orDirectory (hne : loc ≠ p.location home) :
    (tree.orDirectory home p (tree.makeDirectory home p)).2.get? loc = tree.get? loc := by
  rw [orDirectory.eq_def]
  split
  · next made hmade => exact get?_makeDirectory hmade hne
  · split <;> rfl
  · rfl

theorem get?_makeDirectoriesAt {root : Text}
    (h : ¬ (⟨root, names.reverse⟩ : Path).LeadsThrough home loc) :
    (makeDirectoriesAt home root names tree).2.get? loc = tree.get? loc := by
  induction names generalizing tree with
  | nil => exact get?_orDirectory fun heq => h (heq ▸ Path.leadsThrough_location home _)
  | cons name above ih =>
    rw [List.reverse_cons, Path.leadsThrough_concat_iff, not_or] at h
    rw [makeDirectoriesAt, List.reverse_cons]
    split
    · -- the directories above are missing, so they are made first
      have habove : (makeDirectoriesAt home root above tree).2.get? loc = tree.get? loc := ih h.1
      split
      · next fault tree₁ heq => rwa [heq] at habove
      · next tree₁ heq =>
        rw [heq] at habove
        exact (get?_orDirectory h.2).trans habove
    · next outcome _ => exact get?_orDirectory h.2

/-- **Making directories changes nothing beside the trail.** -/
theorem get?_makeDirectories (h : ¬ p.LeadsThrough home loc) :
    (tree.makeDirectories home p).2.get? loc = tree.get? loc := by
  refine get?_makeDirectoriesAt ?_
  rwa [List.reverse_reverse]

end FileTree

/-! ## Paths that can be stored -/

namespace Text

/-- Names in front of other ones. -/
theorem joinWith_prefix {sep : Text} {names above : List Text} (h : above <+: names) :
    joinWith sep above <+: joinWith sep names := by
  have hcons : ∀ name next rest,
      joinWith sep (name :: next :: rest) = name ++ sep ++ joinWith sep (next :: rest) :=
    fun _ _ _ => rfl
  induction above generalizing names with
  | nil => exact List.nil_prefix
  | cons name above ih =>
    obtain ⟨names, rfl, habove⟩ := List.cons_prefix_iff.1 h
    cases above with
    | nil =>
      cases names with
      | nil => exact List.prefix_rfl
      | cons next names =>
        rw [hcons, List.append_assoc]
        exact List.prefix_append _ _
    | cons next above =>
      obtain ⟨names, rfl, -⟩ := List.cons_prefix_iff.1 habove
      rw [hcons, hcons]
      exact (List.prefix_append_right_inj _).2 (ih habove)

end Text

namespace FileTree

theorem bytesOf_append (t t' : Text) : bytesOf (t ++ t') = bytesOf t + bytesOf t' := by
  induction t with
  | nil => rw [List.nil_append, bytesOf, Nat.zero_add]
  | cons c t ih => rw [List.cons_append, bytesOf, bytesOf, ih, Nat.add_assoc]

theorem checkPath_eq_ok_iff :
    checkPath p = .ok () ↔ (∀ c ∈ p.toText, isEncodable c = true) ∧ .scalar '\x00' ∉ p.toText ∧
      bytesOf p.toText ≤ pathLimit := by
  simp only [checkPath]
  split_ifs with hall hnul hlong
  · refine iff_of_false (by simp) fun h => absurd hall ?_
    simpa using h.1
  · simp_all
  · simp_all
  · simp_all

/-- The directories above a path reach the tree if the path does. -/
theorem checkPath_of_prefix {root : Text} {above : List Text} (h : above <+: names)
    (hreaches : checkPath ⟨root, names⟩ = .ok ()) : checkPath ⟨root, above⟩ = .ok () := by
  by_cases hempty : root = [] ∧ above = []
  · obtain ⟨rfl, rfl⟩ := hempty
    rfl
  · have htext : ∀ {names : List Text}, above <+: names →
        (⟨root, names⟩ : Path).toText = root ++ Text.joinWith "/" names := by
      intro names hprefix
      rw [Path.toText, if_neg]
      rw [Bool.and_eq_true, List.isEmpty_iff, List.isEmpty_iff]
      rintro ⟨hroot, hnames⟩
      exact hempty ⟨hroot, List.prefix_nil.1 (hnames ▸ hprefix)⟩
    have hjoined : Text.joinWith "/" above <+: Text.joinWith "/" names := Text.joinWith_prefix h
    obtain ⟨behind, hbehind⟩ := (List.prefix_append_right_inj root).2 hjoined
    rw [checkPath_eq_ok_iff, htext h, ← hbehind, bytesOf_append] at hreaches
    rw [checkPath_eq_ok_iff, htext List.prefix_rfl]
    obtain ⟨hall, hnul, hlong⟩ := hreaches
    refine ⟨fun c hc => hall c (List.mem_append_left _ hc), fun hc => hnul (List.mem_append_left _ hc), ?_⟩
    omega

end FileTree

/-- Nothing in a path is too long or cannot be stored. -/
structure Path.IsStorable (p : Path) : Prop where
  reaches : FileTree.checkPath p = .ok ()
  short : ∀ name ∈ p.names, FileTree.bytesOf name ≤ FileTree.nameLimit

theorem Path.IsStorable.init {root : Text} (h : (⟨root, names ++ [name]⟩ : Path).IsStorable) :
    (⟨root, names⟩ : Path).IsStorable :=
  ⟨FileTree.checkPath_of_prefix (List.prefix_append _ _) h.reaches,
    fun other hother => h.short other (List.mem_append_left _ hother)⟩

/-! ## Trails without files -/

/-- A path can be followed once its directories are made: it begins at a directory, and no file stands in
the way. -/
structure Path.IsClear (tree : FileTree) (home : Location) (p : Path) : Prop where
  storable : p.IsStorable
  begins : tree.get? (p.start home) = some .directory
  noFile : ∀ loc contents, p.LeadsThrough home loc → tree.get? loc ≠ some (.file contents)

theorem Path.IsClear.init {root : Text} (h : (⟨root, names ++ [name]⟩ : Path).IsClear tree home) :
    (⟨root, names⟩ : Path).IsClear tree home :=
  ⟨h.storable.init, h.begins, fun loc contents hleads =>
    h.noFile loc contents (Path.leadsThrough_concat_iff.2 (.inl hleads))⟩

namespace FileTree

theorem IsKept.ne_file {before after : FileTree} (h : IsKept before after loc)
    (hfile : before.get? loc ≠ some (.file contents)) : after.get? loc ≠ some (.file contents) := by
  rcases h with h | ⟨-, hdir⟩
  · rwa [h]
  · rw [hdir]
    simp

/-- Names are followed as far as there are directories. -/
theorem walk_eq_ok (hshort : ∀ name ∈ names, bytesOf name ≤ nameLimit)
    (hdirs : ∀ trail, trail <+: names → trail ≠ [] → tree.get? (follow dir trail) = some .directory) :
    tree.walk dir names = .ok (follow dir names) := by
  induction names generalizing dir with
  | nil => rfl
  | cons name names ih =>
    rw [walk, bind_of_eq_ok (step_eq_ok (hshort name List.mem_cons_self)),
      hdirs [name] (List.prefix_append [name] names) (by simp)]
    refine ih (fun other hother => hshort other (List.mem_cons_of_mem _ hother)) fun trail hprefix _ => ?_
    exact hdirs (name :: trail) (List.cons_prefix_cons.2 ⟨rfl, hprefix⟩) (by simp)

/-- Where no file stands in the way, nothing but a missing directory stops. -/
theorem walk_eq_ok_or (hshort : ∀ name ∈ names, bytesOf name ≤ nameLimit)
    (hnoFile : ∀ trail contents, trail <+: names → tree.get? (follow dir trail) ≠ some (.file contents)) :
    (tree.walk dir names = .ok (follow dir names) ∧
      ∀ trail, trail <+: names → trail ≠ [] → tree.get? (follow dir trail) = some .directory) ∨
      tree.walk dir names = .error .notFound := by
  induction names generalizing dir with
  | nil => exact .inl ⟨rfl, fun trail hprefix hne => absurd (List.prefix_nil.1 hprefix) hne⟩
  | cons name names ih =>
    rw [walk, bind_of_eq_ok (step_eq_ok (hshort name List.mem_cons_self))]
    have hfirst := fun contents => hnoFile [name] contents (List.prefix_append [name] names)
    cases hget : tree.get? (follow dir [name]) with
    | none => exact .inr rfl
    | some entry =>
      cases entry with
      | file contents => exact absurd hget (hfirst contents)
      | directory =>
        refine (ih (fun other hother => hshort other (List.mem_cons_of_mem _ hother))
          fun trail contents hprefix => hnoFile (name :: trail) contents
            (List.cons_prefix_cons.2 ⟨rfl, hprefix⟩)).imp (fun ⟨hwalk, hdirs⟩ => ⟨hwalk, ?_⟩) id
        intro trail hprefix hne
        obtain rfl | ⟨trail, rfl, hbehind⟩ := List.prefix_cons_iff.1 hprefix
        · exact absurd rfl hne
        · by_cases htrail : trail = []
          · rw [htrail]
            exact hget
          · exact hdirs trail hbehind htrail

/-- The last name of a path is followed behind the other ones. -/
theorem resolve_concat {root : Text} (hstorable : (⟨root, names ++ [name]⟩ : Path).IsStorable) :
    tree.resolve home ⟨root, names ++ [name]⟩ =
      (tree.walk (Path.start home ⟨root, names⟩) names).map (follow · [name]) := by
  rw [resolve, bind_of_eq_ok hstorable.reaches]
  dsimp only
  rw [List.dropLast_concat, List.getLast?_concat]
  have hshort := hstorable.short name (by simp)
  rw [Path.start]
  cases tree.walk (if root.isEmpty then home else []) names with
  | error fault => rfl
  | ok above => exact step_eq_ok hshort

theorem resolve_concat_of_trail {root : Text}
    (hstorable : (⟨root, names ++ [name]⟩ : Path).IsStorable)
    (htrail : ∀ loc, (⟨root, names⟩ : Path).LeadsThrough home loc → tree.get? loc = some .directory) :
    tree.resolve home ⟨root, names ++ [name]⟩ =
      .ok ((⟨root, names ++ [name]⟩ : Path).location home) := by
  have hwalk := walk_eq_ok hstorable.init.short fun trail hprefix _ => htrail _ ⟨trail, hprefix, rfl⟩
  rw [resolve_concat hstorable, hwalk, Path.location_concat]
  rfl

/-- A directory is made where a path leads, unless there is a file. -/
theorem exists_orDirectory_eq (hresolve : tree.resolve home p = .ok place)
    (hnoFile : ∀ contents, tree.get? place ≠ some (.file contents)) :
    ∃ after, tree.orDirectory home p (tree.makeDirectory home p) = (.ok (), after) ∧
      Grows tree after ∧ after.get? place = some .directory := by
  cases hget : tree.get? place with
  | none =>
    have hmake : tree.makeDirectory home p = .ok (tree.set place .directory) := by
      rw [makeDirectory, bind_of_eq_ok hresolve, hget]
      rfl
    rw [hmake]
    exact ⟨_, rfl, grows_makeDirectory hmake, get?_set_self tree (ne_nil_of_get?_eq_none hget) _⟩
  | some entry =>
    cases entry with
    | file contents => exact absurd hget (hnoFile contents)
    | directory =>
      have hmake : tree.makeDirectory home p = .error .alreadyThere := by
        rw [makeDirectory, bind_of_eq_ok hresolve, hget]
        rfl
      have hstatus : tree.status home p = .ok .directory := by
        rw [status_of_resolve hresolve, hget]
      rw [hmake, orDirectory, hstatus]
      exact ⟨tree, rfl, Grows.refl tree, hget⟩

/-- The last directory of a path is made behind the other ones. -/
theorem exists_orDirectory_concat {root : Text}
    (hstorable : (⟨root, names ++ [name]⟩ : Path).IsStorable)
    (htrail : ∀ loc, (⟨root, names⟩ : Path).LeadsThrough home loc → tree.get? loc = some .directory)
    (hnoFile : ∀ contents,
      tree.get? ((⟨root, names ++ [name]⟩ : Path).location home) ≠ some (.file contents)) :
    ∃ after, tree.orDirectory home ⟨root, names ++ [name]⟩
        (tree.makeDirectory home ⟨root, names ++ [name]⟩) = (.ok (), after) ∧
      ∀ loc, (⟨root, names ++ [name]⟩ : Path).LeadsThrough home loc →
        after.get? loc = some .directory := by
  obtain ⟨after, hmade, hgrows, hget⟩ :=
    exists_orDirectory_eq (resolve_concat_of_trail hstorable htrail) hnoFile
  refine ⟨after, hmade, fun loc hleads => ?_⟩
  obtain hleads | rfl := Path.leadsThrough_concat_iff.1 hleads
  · exact hgrows.keepsDirectories loc (htrail loc hleads)
  · exact hget

theorem exists_makeDirectoriesAt {root : Text}
    (hclear : (⟨root, names.reverse⟩ : Path).IsClear tree home) :
    ∃ after, makeDirectoriesAt home root names tree = (.ok (), after) ∧
      ∀ loc, (⟨root, names.reverse⟩ : Path).LeadsThrough home loc → after.get? loc = some .directory := by
  induction names with
  | nil =>
    have hresolve : tree.resolve home ⟨root, []⟩ = .ok ((⟨root, []⟩ : Path).location home) :=
      bind_of_eq_ok hclear.storable.reaches _
    obtain ⟨after, hmade, -, hget⟩ := exists_orDirectory_eq hresolve fun contents =>
      hclear.noFile _ contents (Path.leadsThrough_location home _)
    refine ⟨after, hmade, ?_⟩
    rintro loc ⟨trail, hprefix, rfl⟩
    obtain rfl := List.prefix_nil.1 hprefix
    exact hget
  | cons name above ih =>
    rw [List.reverse_cons] at hclear ⊢
    have hlast := fun contents => hclear.noFile _ contents (Path.leadsThrough_location home _)
    rw [makeDirectoriesAt, List.reverse_cons]
    split
    · -- some directory above is missing
      obtain ⟨between, hbetween, htrail⟩ := ih hclear.init
      have hgrows : Grows tree between := by
        have hgrows := grows_makeDirectoriesAt home root above tree
        rwa [hbetween] at hgrows
      rw [hbetween]
      exact exists_orDirectory_concat hclear.storable htrail fun contents =>
        (hgrows _).ne_file (hlast contents)
    · next outcome hfound =>
      refine exists_orDirectory_concat hclear.storable ?_ hlast
      obtain ⟨-, hdirs⟩ | hmissing := walk_eq_ok_or hclear.storable.init.short
        fun trail contents hprefix => hclear.init.noFile _ contents ⟨trail, hprefix, rfl⟩
      · rintro loc ⟨trail, hprefix, rfl⟩
        by_cases htrail : trail = []
        · rw [htrail]
          exact hclear.begins
        · exact hdirs trail hprefix htrail
      · refine absurd ?_ hfound
        rw [makeDirectory, resolve_concat hclear.storable, hmissing]
        rfl

/-- **Where no file stands in the way the directories of a path are made, and then its whole trail consists
of directories.** -/
theorem exists_makeDirectories (hclear : p.IsClear tree home) :
    ∃ after, tree.makeDirectories home p = (.ok (), after) ∧
      ∀ loc, p.LeadsThrough home loc → after.get? loc = some .directory := by
  have hreverse : (⟨p.root, p.names.reverse.reverse⟩ : Path) = p := by rw [List.reverse_reverse]
  have hmade := exists_makeDirectoriesAt (hreverse.symm ▸ hclear)
  rwa [hreverse] at hmade

/-- **Where no file stands in the way of its directories a file can be written**, unless its path leads to
a directory. -/
theorem exists_writeFile (hne : p.names ≠ []) (hstorable : p.IsStorable)
    (hclear : p.parent.IsClear tree home) (contents : ByteArray) :
    ∃ between, tree.makeDirectories home p.parent = (.ok (), between) ∧
      (between.get? (p.location home) = some .directory ∨
        ∃ after, between.writeFile home p contents = .ok after ∧
          after.get? (p.location home) = some (.file contents)) := by
  obtain ⟨between, hmade, htrail⟩ := exists_makeDirectories hclear
  refine ⟨between, hmade, ?_⟩
  have hresolve : between.resolve home p = .ok (p.location home) := by
    obtain ⟨root, names⟩ := p
    obtain ⟨above, last, rfl⟩ := (List.eq_nil_or_concat' names).resolve_left hne
    rw [Path.parent, List.dropLast_concat] at htrail
    exact resolve_concat_of_trail hstorable htrail
  by_cases hdirectory : between.get? (p.location home) = some .directory
  · exact .inl hdirectory
  · have hroot : p.location home ≠ [] := by
      intro hroot
      rw [hroot] at hdirectory
      exact hdirectory rfl
    refine .inr ⟨_, ?_, get?_set_self between hroot _⟩
    rw [writeFile, bind_of_eq_ok hresolve]
    split
    · next heq => exact absurd heq hdirectory
    · rfl

end FileTree
end DashboardSynthesis
