import DashboardSynthesis.FileTree.Basic
import DashboardSynthesis.Proofs.Outcome
import Mathlib.Data.List.Basic

/-!
# What writing changes

Two things change a tree: directories are made where there is nothing, and a file is put at a location
that is no directory.  So whatever is done, a directory stays a directory, and the other locations keep
what they hold, but that a new directory may be where there was nothing (`IsKept`).

`Grows` says this of every location; making directories lets a tree grow, also where it fails halfway
(`grows_makeDirectories`).  `FileIsPut` says it of every location but the one of the file
(`fileIsPut_of_writeFile`).  Since directories stay, a path that leads somewhere leads there afterwards
(`resolve_of_keepsDirectories`), and the file that was put is found under its path.
-/

namespace DashboardSynthesis
namespace FileTree

/-- A location keeps what it holds, but that a new directory may be where there was nothing. -/
def IsKept (before after : FileTree) (loc : Location) : Prop :=
  after.get? loc = before.get? loc ∨ before.get? loc = none ∧ after.get? loc = some .directory

/-- Nothing changes but that there may be new directories. -/
def Grows (before after : FileTree) : Prop := ∀ loc, IsKept before after loc

/-- A file is put at a location that is no directory, and nothing else changes but that there may be new
directories. -/
structure FileIsPut (before after : FileTree) (loc : Location) (contents : ByteArray) : Prop where
  isThere : after.get? loc = some (.file contents)
  wasNoDirectory : before.get? loc ≠ some .directory
  others : ∀ other, other ≠ loc → IsKept before after other

/-- Directories stay directories. -/
def KeepsDirectories (before after : FileTree) : Prop :=
  ∀ loc, before.get? loc = some .directory → after.get? loc = some .directory

variable {before between after tree tree' : FileTree} {home loc : Location} {p : Path}
  {contents : ByteArray}

/-! ## Setting an entry -/

/-- What is put at a location is there. -/
theorem get?_set_self (tree : FileTree) {loc : Location} (h : loc ≠ []) (entry : Entry) :
    (tree.set loc entry).get? loc = some entry := by
  rw [get?, if_neg h, set]
  by_cases hany : (tree.entries.any fun e => decide (e.1 = loc)) = true
  · obtain ⟨e, he⟩ := Option.isSome_iff_exists.1 (List.find?_isSome.2 (List.any_eq_true.1 hany))
    have hsame : ((fun e : Location × Entry => decide (e.1 = loc)) ∘
        fun e => if e.1 = loc then (loc, entry) else e) = fun e => decide (e.1 = loc) := by
      funext e
      by_cases hloc : e.1 = loc <;> simp [hloc]
    have hloc : e.1 = loc := by simpa using List.find?_some he
    rw [if_pos hany, List.find?_map, hsame, he]
    simp [hloc]
  · have hnone : tree.entries.find? (fun e => decide (e.1 = loc)) = none := by
      rw [List.find?_eq_none]
      intro e he hloc
      exact hany (List.any_eq_true.2 ⟨e, he, hloc⟩)
    rw [if_neg hany, List.find?_append, hnone]
    simp

theorem get?_set_of_ne (tree : FileTree) {loc other : Location} (h : other ≠ loc) (entry : Entry) :
    (tree.set loc entry).get? other = tree.get? other := by
  have hfind : (tree.set loc entry).entries.find? (fun e => decide (e.1 = other)) =
      tree.entries.find? fun e => decide (e.1 = other) := by
    rw [set]
    split
    · -- an entry that is replaced is not the one that is looked for, before or after
      rw [List.find?_map]
      have hsame : ((fun e : Location × Entry => decide (e.1 = other)) ∘
          fun e => if e.1 = loc then (loc, entry) else e) = fun e => decide (e.1 = other) := by
        funext e
        by_cases hloc : e.1 = loc <;> simp [hloc, h.symm]
      rw [hsame]
      cases hfound : tree.entries.find? fun e => decide (e.1 = other) with
      | none => rfl
      | some e =>
        have he : e.1 = other := by simpa using List.find?_some hfound
        simp [he, h]
    · rw [List.find?_append]
      simp [h.symm]
  rw [get?, get?, hfind]

/-! ## Growing -/

theorem Grows.refl (tree : FileTree) : Grows tree tree := fun _ => .inl rfl

theorem IsKept.trans (h : IsKept before between loc) (h' : IsKept between after loc) :
    IsKept before after loc := by
  rcases h with h | ⟨hnone, hdir⟩
  · rwa [IsKept, h] at h'
  · rcases h' with h' | ⟨hnone', -⟩
    · exact .inr ⟨hnone, h'.trans hdir⟩
    · rw [hnone'] at hdir
      exact absurd hdir (by simp)

theorem Grows.trans (h : Grows before between) (h' : Grows between after) : Grows before after :=
  fun loc => (h loc).trans (h' loc)

theorem IsKept.directory (h : IsKept before after loc) (hdir : before.get? loc = some .directory) :
    after.get? loc = some .directory := by
  rcases h with h | ⟨hnone, -⟩
  · rw [h, hdir]
  · rw [hnone] at hdir
    exact absurd hdir (by simp)

theorem Grows.keepsDirectories (h : Grows before after) : KeepsDirectories before after :=
  fun loc hdir => (h loc).directory hdir

theorem FileIsPut.keepsDirectories (h : FileIsPut before after loc contents) :
    KeepsDirectories before after := by
  intro other hdir
  by_cases hother : other = loc
  · exact absurd (hother ▸ hdir) h.wasNoDirectory
  · exact (h.others other hother).directory hdir

/-- New directories before a file is put. -/
theorem Grows.fileIsPut (h : Grows before between) (h' : FileIsPut between after loc contents) :
    FileIsPut before after loc contents := by
  refine ⟨h'.isThere, fun hdir => h'.wasNoDirectory (h.keepsDirectories _ hdir), ?_⟩
  exact fun other hother => (h other).trans (h'.others other hother)

/-! ## Following paths -/

theorem walk_of_keepsDirectories (h : KeepsDirectories before after) {names : List Text}
    {dir place : Location} (hwalk : before.walk dir names = .ok place) :
    after.walk dir names = .ok place := by
  induction names generalizing dir with
  | nil => exact hwalk
  | cons name names ih =>
    obtain ⟨next, hstep, hrest⟩ := exists_of_bind_eq_ok hwalk
    refine (bind_of_eq_ok hstep _).trans ?_
    cases hget : before.get? next with
    | none =>
      rw [hget] at hrest
      exact absurd hrest (by simp)
    | some entry =>
      rw [hget] at hrest
      cases entry with
      | file contents => exact absurd hrest (by simp)
      | directory =>
        rw [h next hget]
        exact ih hrest

/-- A path that leads somewhere leads there as long as directories stay. -/
theorem resolve_of_keepsDirectories (h : KeepsDirectories before after) {place : Location}
    (hresolve : before.resolve home p = .ok place) : after.resolve home p = .ok place := by
  obtain ⟨⟨⟩, hcheck, hrest⟩ := exists_of_bind_eq_ok hresolve
  obtain ⟨above, hwalk, hlast⟩ := exists_of_bind_eq_ok hrest
  refine (bind_of_eq_ok hcheck _).trans ?_
  exact (bind_of_eq_ok (walk_of_keepsDirectories h hwalk) _).trans hlast

theorem status_of_resolve (hresolve : tree.resolve home p = .ok loc) :
    tree.status home p =
      match tree.get? loc with
      | some entry => .ok entry
      | none => .error .notFound :=
  bind_of_eq_ok hresolve _

theorem readFile_of_resolve (hresolve : tree.resolve home p = .ok loc)
    (hget : tree.get? loc = some (.file contents)) : tree.readFile home p = .ok contents := by
  have hstatus : tree.status home p = .ok (.file contents) := by
    rw [status_of_resolve hresolve, hget]
  exact bind_of_eq_ok hstatus _

/-! ## Making directories -/

/-- What making a directory does to the tree. -/
theorem of_makeDirectory (h : tree.makeDirectory home p = .ok tree') :
    ∃ place, tree.resolve home p = .ok place ∧ tree.get? place = none ∧
      tree' = tree.set place .directory := by
  obtain ⟨place, hresolve, hput⟩ := exists_of_bind_eq_ok h
  cases hget : tree.get? place with
  | some entry =>
    rw [hget] at hput
    exact absurd hput throw_ne_ok
  | none =>
    rw [hget] at hput
    exact ⟨place, hresolve, hget, (Except.ok.inj hput).symm⟩

/-- There is always something at the root. -/
theorem ne_nil_of_get?_eq_none (h : tree.get? loc = none) : loc ≠ [] := by
  rintro rfl
  exact absurd h (by simp [get?])

theorem grows_makeDirectory (h : tree.makeDirectory home p = .ok tree') : Grows tree tree' := by
  obtain ⟨place, -, hnone, rfl⟩ := of_makeDirectory h
  intro other
  by_cases hother : other = place
  · rw [hother]
    exact .inr ⟨hnone, get?_set_self tree (ne_nil_of_get?_eq_none hnone) _⟩
  · exact .inl (get?_set_of_ne tree hother _)

theorem grows_orDirectory {made : Except FileFault FileTree}
    (h : ∀ tree', made = .ok tree' → Grows tree tree') : Grows tree (tree.orDirectory home p made).2 := by
  rw [orDirectory.eq_def]
  split
  · next made => exact h made rfl
  · split <;> exact Grows.refl tree
  · exact Grows.refl tree

theorem grows_makeDirectoriesAt (home : Location) (root : Text) (names : List Text) (tree : FileTree) :
    Grows tree (makeDirectoriesAt home root names tree).2 := by
  induction names generalizing tree with
  | nil => exact grows_orDirectory fun _ => grows_makeDirectory
  | cons name above ih =>
    rw [makeDirectoriesAt]
    split
    · -- the directories above are missing, so they are made first
      have habove := ih tree
      split
      · next fault tree₁ heq => rwa [heq] at habove
      · next tree₁ heq =>
        rw [heq] at habove
        exact habove.trans (grows_orDirectory fun _ => grows_makeDirectory)
    · exact grows_orDirectory fun _ h => grows_makeDirectory h

/-- Making directories changes nothing else, whether it succeeds or not. -/
theorem grows_makeDirectories (tree : FileTree) (home : Location) (p : Path) :
    Grows tree (tree.makeDirectories home p).2 := grows_makeDirectoriesAt home p.root _ tree

/-! ## Writing a file -/

/-- What writing a file does to the tree. -/
theorem of_writeFile (h : tree.writeFile home p contents = .ok tree') :
    ∃ loc, tree.resolve home p = .ok loc ∧ tree.get? loc ≠ some .directory ∧
      tree' = tree.set loc (.file contents) := by
  obtain ⟨loc, hresolve, hput⟩ := exists_of_bind_eq_ok h
  refine ⟨loc, hresolve, ?_, ?_⟩
  · intro hdir
    rw [hdir] at hput
    exact absurd hput throw_ne_ok
  · split at hput
    · exact absurd hput throw_ne_ok
    · exact (Except.ok.inj hput).symm

theorem fileIsPut_of_writeFile (h : tree.writeFile home p contents = .ok tree') :
    ∃ loc, tree.resolve home p = .ok loc ∧ FileIsPut tree tree' loc contents := by
  obtain ⟨loc, hresolve, hdirectory, rfl⟩ := of_writeFile h
  have hroot : loc ≠ [] := by
    rintro rfl
    exact hdirectory rfl
  exact ⟨loc, hresolve, get?_set_self tree hroot _, hdirectory,
    fun other hother => .inl (get?_set_of_ne tree hother _)⟩

/-- The tree with contents in the file at a path, below directories that are made where they are
missing. -/
def put (tree : FileTree) (home : Location) (p : Path) (contents : ByteArray) :
    Except FileFault FileTree :=
  match tree.makeDirectories home p.parent with
  | (.ok (), tree) => tree.writeFile home p contents
  | (.error fault, _) => .error fault

/-- **Putting a file.**  The path leads to the file that was put, and nothing else changed but that there
may be new directories. -/
theorem fileIsPut_of_put (h : tree.put home p contents = .ok tree') :
    ∃ loc, tree'.resolve home p = .ok loc ∧ FileIsPut tree tree' loc contents := by
  have hgrows := grows_makeDirectories tree home p.parent
  rw [put] at h
  split at h
  · next between heq =>
    rw [heq] at hgrows
    obtain ⟨loc, hresolve, hput⟩ := fileIsPut_of_writeFile h
    exact ⟨loc, resolve_of_keepsDirectories hput.keepsDirectories hresolve, hgrows.fileIsPut hput⟩
  · exact absurd h (by simp)

end FileTree
end DashboardSynthesis
