import DashboardSynthesis.Proofs.FileTree.Writing
import Mathlib.Data.List.TakeWhile

/-!
# The last name of a path

A path whose last name is not `..` leads, in whatever tree, to a location that ends with that name, if it
leads anywhere (`EndsWith.getLast?_of_resolve`).  So paths with different last names lead to different
places, and what is put at the one does not touch what was put at the other (`readFile_put_put`); the
tree that comes of it tells what was put at both (`put_put_eq_iff`).  In a text the first name is what stands
in front of the first separator (`namesOf_eq_cons`) and the last one what stands behind the last separator
(`getLast?_namesOf`).
-/

namespace DashboardSynthesis

/-! ## In a text -/

namespace Text

variable {sep : CodePoint}

theorem splitOn_of_notMem {t : Text} (h : sep ∉ t) : splitOn sep t = [t] := by
  induction t with
  | nil => rfl
  | cons c t ih =>
    obtain ⟨hc, ht⟩ := not_or.1 (List.mem_cons.not.1 h)
    rw [splitOn, if_neg (Ne.symm hc), ih ht]

theorem splitOn_append_cons (s t : Text) :
    splitOn sep (s ++ sep :: t) = splitOn sep s ++ splitOn sep t := by
  induction s with
  | nil =>
    rw [List.nil_append]
    exact if_pos rfl
  | cons c s ih =>
    rw [List.cons_append, splitOn, splitOn, ih]
    split
    · rfl
    · obtain ⟨piece, pieces, hpieces⟩ := List.exists_cons_of_ne_nil (splitOn_ne_nil sep s)
      rw [hpieces]
      rfl

/-- A text up to the last occurrence of a code point, and what is behind it. -/
theorem exists_eq_append_cons {t : Text} (h : sep ∈ t) : ∃ s last, t = s ++ sep :: last ∧ sep ∉ last := by
  obtain ⟨last, s, hreverse, hlast⟩ := List.eq_append_cons_of_mem (List.mem_reverse.2 h)
  refine ⟨s.reverse, last.reverse, ?_, fun hmem => hlast (List.mem_reverse.1 hmem)⟩
  have ht := congrArg List.reverse hreverse
  simpa using ht

end Text

namespace Path

theorem namesOf_append_cons (s t : Text) : namesOf (s ++ .scalar '/' :: t) = namesOf s ++ namesOf t := by
  rw [namesOf, Text.splitOn_append_cons, List.filter_append]
  rfl

theorem namesOf_of_notMem {t : Text} (hplain : .scalar '/' ∉ t) (hne : t ≠ [])
    (hdot : t ≠ ("." : Text)) : namesOf t = [t] := by
  rw [namesOf, Text.splitOn_of_notMem hplain]
  simp [hne, hdot]

/-- The first name is what stands in front of the first separator. -/
theorem namesOf_eq_cons {t first : Text} (hfirst : t.takeWhile (· ≠ .scalar '/') = first)
    (hne : first ≠ []) (hdot : first ≠ ("." : Text)) :
    namesOf t = first :: namesOf (t.dropWhile (· ≠ .scalar '/')) := by
  have hplain : .scalar '/' ∉ first := by
    intro hmem
    rw [← hfirst] at hmem
    simpa using List.mem_takeWhile_imp hmem
  have ht : t = first ++ t.dropWhile (· ≠ .scalar '/') := by
    rw [← hfirst, List.takeWhile_append_dropWhile]
  cases hrest : t.dropWhile (· ≠ .scalar '/') with
  | nil =>
    rw [hrest, List.append_nil] at ht
    rw [ht, namesOf_of_notMem hplain hne hdot]
    rfl
  | cons c rest =>
    have hhead := List.head?_dropWhile_not (· ≠ .scalar '/') t
    rw [hrest] at hhead ht
    have hc : c = .scalar '/' := by simpa using hhead
    have hbehind : namesOf (.scalar '/' :: rest) = namesOf rest := namesOf_append_cons [] rest
    rw [ht, hc, namesOf_append_cons, namesOf_of_notMem hplain hne hdot, hbehind]
    rfl

/-- The last name of a path, which does not lead upwards. -/
structure EndsWith (p : Path) (name : Text) : Prop where
  last : p.names.getLast? = some name
  isNotParent : name ≠ ".."

theorem join_of_root_eq_nil {p q : Path} (h : q.root = []) : p.join q = ⟨p.root, p.names ++ q.names⟩ := by
  rw [join, if_pos (List.isEmpty_iff.2 h)]

/-- The last name is what stands behind the last separator. -/
theorem getLast?_namesOf {s name : Text} (hplain : .scalar '/' ∉ name) (hne : name ≠ [])
    (hdot : name ≠ ("." : Text)) : (namesOf (s ++ .scalar '/' :: name)).getLast? = some name := by
  rw [namesOf_append_cons, namesOf_of_notMem hplain hne hdot, List.getLast?_concat]

end Path

/-! ## In a tree -/

variable {tree between after : FileTree} {home place : Location} {p q : Path} {name name' : Text}
  {contents contents' : ByteArray}

theorem Path.EndsWith.getLast?_of_resolve (h : p.EndsWith name)
    (hresolve : tree.resolve home p = .ok place) : place.getLast? = some name := by
  obtain ⟨⟨⟩, -, hrest⟩ := exists_of_bind_eq_ok hresolve
  obtain ⟨above, -, hstep⟩ := exists_of_bind_eq_ok hrest
  rw [h.last] at hstep
  dsimp only at hstep
  rw [FileTree.step, if_neg h.isNotParent] at hstep
  split at hstep
  · exact absurd hstep (by simp)
  · rw [← Except.ok.inj hstep, List.getLast?_append]
    rfl

namespace FileTree

/-- A file is still there once another one has been put at another place. -/
theorem FileIsPut.get?_of_ne {other : Location} (h : FileIsPut between after place contents')
    (hne : other ≠ place) (hfile : between.get? other = some (.file contents)) :
    after.get? other = some (.file contents) := by
  obtain hkept | ⟨hnone, -⟩ := h.others other hne
  · rw [hkept, hfile]
  · rw [hfile] at hnone
    exact absurd hnone (by simp)

/-- What is at a path is not affected by a file with another name, but that a new directory may be where
there was nothing. -/
theorem FileIsPut.status_eq_or {other : Location} (h : FileIsPut between after place contents)
    (hplace : place.getLast? = some name') (hp : p.EndsWith name) (hne : name ≠ name')
    (hresolve : between.resolve home p = .ok other) :
    after.status home p = between.status home p ∨
      between.status home p = .error .notFound ∧ after.status home p = .ok .directory := by
  have hother : other ≠ place := by
    rintro rfl
    exact hne (Option.some_inj.1 ((hp.getLast?_of_resolve hresolve).symm.trans hplace))
  have hresolve' := resolve_of_keepsDirectories h.keepsDirectories hresolve
  rw [status_of_resolve hresolve, status_of_resolve hresolve']
  obtain hkept | ⟨hnone, hdirectory⟩ := h.others other hother
  · exact .inl (by rw [hkept])
  · exact .inr ⟨by rw [hnone], by rw [hdirectory]⟩

/-- **Two files.**  What is put at a path stays when something is put at a path with another last name. -/
theorem readFile_put_put (hp : p.EndsWith name) (hq : q.EndsWith name') (hne : name ≠ name')
    (h : tree.put home p contents = .ok between) (h' : between.put home q contents' = .ok after) :
    after.readFile home p = .ok contents ∧ after.readFile home q = .ok contents' := by
  obtain ⟨place, hresolve, hput⟩ := fileIsPut_of_put h
  obtain ⟨place', hresolve', hput'⟩ := fileIsPut_of_put h'
  have hplace : place ≠ place' := by
    rintro rfl
    have hlast := (hp.getLast?_of_resolve hresolve).symm.trans (hq.getLast?_of_resolve hresolve')
    exact hne (Option.some_inj.1 hlast)
  refine ⟨readFile_of_resolve (resolve_of_keepsDirectories hput'.keepsDirectories hresolve) ?_,
    readFile_of_resolve hresolve' hput'.isThere⟩
  exact hput'.get?_of_ne hplace hput.isThere

/-- What is put at two paths with different last names can be told from the tree that comes of it. -/
theorem put_put_eq_iff {between' after' : FileTree} {written written' : ByteArray}
    (hp : p.EndsWith name) (hq : q.EndsWith name') (hne : name ≠ name')
    (h₁ : tree.put home p contents = .ok between) (h₂ : between.put home q contents' = .ok after)
    (h₁' : tree.put home p written = .ok between') (h₂' : between'.put home q written' = .ok after') :
    after = after' ↔ contents = written ∧ contents' = written' := by
  constructor
  · rintro rfl
    obtain ⟨hread₁, hread₂⟩ := readFile_put_put hp hq hne h₁ h₂
    obtain ⟨hread₁', hread₂'⟩ := readFile_put_put hp hq hne h₁' h₂'
    exact ⟨Except.ok.inj (hread₁.symm.trans hread₁'), Except.ok.inj (hread₂.symm.trans hread₂')⟩
  · rintro ⟨rfl, rfl⟩
    obtain rfl := Except.ok.inj (h₁.symm.trans h₁')
    exact Except.ok.inj (h₂.symm.trans h₂')

end FileTree
end DashboardSynthesis
