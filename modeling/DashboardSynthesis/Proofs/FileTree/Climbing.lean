import DashboardSynthesis.Proofs.FileTree.Trails
import Mathlib.Data.List.Infix

/-!
# Paths that climb

A name `..` leads out of a directory again.  Names that never lead more than some levels above the
directory where they begin (`StaysWithin`) stay below a directory that lies so many levels above it
(`prefix_follow`); names that do lead above it leave it, and go on from the directory above
(`exists_follow_eq`).  So what is on the way to a path below a directory is below the directory or on the way
to it (`Path.IsBelow.leadsThrough_or`).
-/

namespace DashboardSynthesis

variable {names : List Text} {name : Text} {levels : Nat} {home dir loc : Location}

/-! ## Names that lead upwards -/

namespace FileTree

/-- How many of the names lead upwards. -/
def ups (names : List Text) : Nat := names.count (".." : Text)

/-- How many of the names lead downwards. -/
def downs (names : List Text) : Nat := names.countP (· ≠ (".." : Text))

theorem ups_parent (names : List Text) : ups (".." :: names) = ups names + 1 := List.count_cons_self

theorem ups_name (hname : name ≠ "..") (names : List Text) : ups (name :: names) = ups names :=
  List.count_cons_of_ne hname

theorem downs_parent (names : List Text) : downs (".." :: names) = downs names :=
  List.countP_cons_of_neg (by simp)

theorem downs_name (hname : name ≠ "..") (names : List Text) :
    downs (name :: names) = downs names + 1 :=
  List.countP_cons_of_pos (by simpa using hname)

/-- Names never lead more than so many levels above the directory where they begin. -/
def StaysWithin (levels : Nat) (names : List Text) : Prop :=
  ∀ trail, trail <+: names → ups trail ≤ downs trail + levels

instance : Decidable (StaysWithin levels names) :=
  decidable_of_iff (∀ trail ∈ names.inits, ups trail ≤ downs trail + levels)
    (by simp only [List.mem_inits, StaysWithin])

theorem staysWithin_nil (levels : Nat) : StaysWithin levels [] := by
  intro trail hprefix
  rw [List.prefix_nil.1 hprefix]
  exact Nat.zero_le _

theorem staysWithin_parent_iff :
    StaysWithin levels (".." :: names) ↔ ∃ below, levels = below + 1 ∧ StaysWithin below names := by
  constructor
  · intro h
    have hfirst : 1 ≤ 0 + levels := h [".."] (List.prefix_append [_] names)
    refine ⟨levels - 1, by omega, fun trail hprefix => ?_⟩
    have hlonger := h (".." :: trail) (List.cons_prefix_cons.2 ⟨rfl, hprefix⟩)
    rw [ups_parent, downs_parent] at hlonger
    omega
  · rintro ⟨below, rfl, h⟩ trail hprefix
    obtain rfl | ⟨behind, rfl, hbehind⟩ := List.prefix_cons_iff.1 hprefix
    · exact Nat.zero_le _
    · have hrest := h behind hbehind
      rw [ups_parent, downs_parent]
      omega

theorem staysWithin_name_iff (hname : name ≠ "..") :
    StaysWithin levels (name :: names) ↔ StaysWithin (levels + 1) names := by
  constructor
  · intro h trail hprefix
    have hlonger := h (name :: trail) (List.cons_prefix_cons.2 ⟨rfl, hprefix⟩)
    rw [ups_name hname, downs_name hname] at hlonger
    omega
  · intro h trail hprefix
    obtain rfl | ⟨behind, rfl, hbehind⟩ := List.prefix_cons_iff.1 hprefix
    · exact Nat.zero_le _
    · have hrest := h behind hbehind
      rw [ups_name hname, downs_name hname]
      omega

/-- Names that do not lead above a directory stay below it. -/
theorem prefix_follow {extra : List Text} (h : StaysWithin extra.length names) :
    dir <+: follow (dir ++ extra) names := by
  induction names generalizing extra with
  | nil => exact List.prefix_append _ _
  | cons name names ih =>
    rw [follow]
    split
    · next hparent =>
      rw [hparent, staysWithin_parent_iff] at h
      obtain ⟨below, hlevels, h⟩ := h
      have hextra : extra ≠ [] := by
        rintro rfl
        exact absurd hlevels (by simp)
      rw [List.dropLast_append_of_ne_nil hextra]
      refine ih ?_
      rwa [List.length_dropLast, hlevels]
    · next hname =>
      rw [staysWithin_name_iff hname] at h
      rw [List.append_assoc]
      refine ih ?_
      rwa [List.length_append]

theorem prefix_follow_zero (h : StaysWithin 0 names) : dir <+: follow dir names := by
  have hfollow : dir <+: follow (dir ++ []) names := prefix_follow h
  rwa [List.append_nil] at hfollow

/-- Names that lead above a directory go on from the directory above it. -/
theorem exists_follow_eq (h : ¬ StaysWithin levels names) :
    ∃ behind, ∀ dir extra : List Text, extra.length = levels →
      follow (dir ++ extra) names = follow dir.dropLast behind := by
  induction names generalizing levels with
  | nil => exact absurd (staysWithin_nil _) h
  | cons name names ih =>
    by_cases hname : name = ".."
    · cases levels with
      | zero =>
        refine ⟨names, fun dir extra hextra => ?_⟩
        rw [List.length_eq_zero_iff.1 hextra, List.append_nil, follow, if_pos hname]
      | succ below =>
        have hrest : ¬ StaysWithin below names := by
          rw [hname, staysWithin_parent_iff] at h
          exact fun hrest => h ⟨below, rfl, hrest⟩
        obtain ⟨behind, hbehind⟩ := ih hrest
        refine ⟨behind, fun dir extra hextra => ?_⟩
        have hne : extra ≠ [] := by
          rintro rfl
          exact absurd hextra (by simp)
        rw [follow, if_pos hname, List.dropLast_append_of_ne_nil hne]
        exact hbehind dir _ (by rw [List.length_dropLast, hextra]; rfl)
    · rw [staysWithin_name_iff hname] at h
      obtain ⟨behind, hbehind⟩ := ih h
      refine ⟨behind, fun dir extra hextra => ?_⟩
      rw [follow, if_neg hname, List.append_assoc]
      exact hbehind dir _ (by rw [List.length_append, hextra]; rfl)

end FileTree

/-- A relative path that never leads above the directory where it begins. -/
structure Path.IsBelow (p : Path) : Prop where
  relative : p.root = []
  stays : FileTree.StaysWithin 0 p.names

theorem Path.leadsThrough_of_parent {p : Path} (h : p.parent.LeadsThrough home loc) :
    p.LeadsThrough home loc := by
  obtain ⟨trail, hprefix, rfl⟩ := h
  exact ⟨trail, hprefix.trans (List.dropLast_prefix _), rfl⟩

/-- On the way to a path below a directory one comes through the directories above it first. -/
theorem Path.IsBelow.leadsThrough_or {directory p : Path} (h : p.IsBelow)
    (hleads : (directory.join p).LeadsThrough home loc) :
    directory.LeadsThrough home loc ∨ directory.location home <+: loc := by
  rw [join_of_root_eq_nil h.relative] at hleads
  obtain ⟨trail, hprefix, rfl⟩ := hleads
  obtain habove | ⟨behind, rfl⟩ :=
    List.prefix_or_prefix_of_prefix hprefix (List.prefix_append directory.names p.names)
  · exact .inl ⟨trail, habove, rfl⟩
  · have hbehind : behind <+: p.names := (List.prefix_append_right_inj _).1 hprefix
    have hstays : FileTree.StaysWithin 0 behind := fun trail htrail =>
      h.stays trail (htrail.trans hbehind)
    refine .inr ?_
    rw [FileTree.follow_append]
    exact FileTree.prefix_follow_zero hstays

theorem Path.IsBelow.prefix_location {directory p : Path} (h : p.IsBelow) :
    directory.location home <+: (directory.join p).location home := by
  rw [join_of_root_eq_nil h.relative, location, location, FileTree.follow_append]
  exact FileTree.prefix_follow_zero h.stays

end DashboardSynthesis
