import DashboardSynthesis.Proofs.Template.Customize

/-!
# Customizing in one pass

A text that holds no marker is left as it is.  In any other text the first marker is replaced by its value,
and customizing goes on behind the marker, so it sees neither what stood in front of it nor the value that
was put in.  `IsOnePass` says this of a way of replacing markers, and `isOnePass_iff` that customizing is the
only way there is.

## Overlaps

Markers begin and end with the same sign, so two of them may share one, as in `$id$uid$`.  The first marker
is the one that starts first.  It takes the sign, and `uid$` behind it is no marker any more.
-/

namespace DashboardSynthesis

/-! ## Where markers are -/

/-- Some marker stands in the text. -/
def HoldsMarker (t : Text) : Prop := ∃ m : Marker, m.text <:+: t

/-- No marker starts at one of the first `n` places of the text. -/
def NoMarkerStartsBefore (n : ℕ) (t : Text) : Prop := ∀ i < n, ∀ m : Marker, ¬ m.text <+: t.drop i

theorem Marker.mem_all (m : Marker) : m ∈ all := by
  cases m <;> decide

theorem Marker.atStart?_eq_none_iff {t : Text} : atStart? t = none ↔ ∀ m : Marker, ¬ m.text <+: t := by
  simp [atStart?, mem_all]

theorem noMarkerStartsBefore_cons {n : ℕ} {c : CodePoint} {t : Text} :
    NoMarkerStartsBefore (n + 1) (c :: t) ↔
      Marker.atStart? (c :: t) = none ∧ NoMarkerStartsBefore n t := by
  rw [Marker.atStart?_eq_none_iff]
  constructor
  · intro h
    exact ⟨h 0 n.succ_pos, fun i hi => h (i + 1) (Nat.succ_lt_succ hi)⟩
  · rintro ⟨hfirst, hrest⟩ i hi
    cases i with
    | zero => exact hfirst
    | succ i => exact hrest i (Nat.lt_of_succ_lt_succ hi)

/-- Where no marker stands, none starts. -/
theorem noMarkerStartsBefore_of_not_holdsMarker {t : Text} (h : ¬ HoldsMarker t) (n : ℕ) :
    NoMarkerStartsBefore n t :=
  fun i _ m hm => h ⟨m, hm.isInfix.trans (List.drop_suffix i t).isInfix⟩

/-- **The first marker** of a text that holds one. -/
theorem HoldsMarker.exists_first {t : Text} (h : HoldsMarker t) :
    ∃ (p : Text) (m : Marker) (s : Text),
      t = p ++ (m.text ++ s) ∧ NoMarkerStartsBefore p.length t := by
  induction t with
  | nil =>
    obtain ⟨m, hm⟩ := h
    exact absurd (List.infix_nil.1 hm) (by cases m <;> decide)
  | cons c t ih =>
    cases hstart : Marker.atStart? (c :: t) with
    | some m =>
      have hprefix := List.find?_some hstart
      obtain ⟨s, hs⟩ := List.isPrefixOf_iff_prefix.1 hprefix
      exact ⟨[], m, s, hs.symm, fun i hi => absurd hi (Nat.not_lt_zero i)⟩
    | none =>
      obtain ⟨m, hm⟩ := h
      have hrest : HoldsMarker t := by
        rcases List.infix_cons_iff.1 hm with hm | hm
        · exact absurd hm (Marker.atStart?_eq_none_iff.1 hstart m)
        · exact ⟨m, hm⟩
      obtain ⟨p, m, s, rfl, hp⟩ := ih hrest
      exact ⟨c :: p, m, s, rfl, noMarkerStartsBefore_cons.2 ⟨hstart, hp⟩⟩

/-! ## Pieces -/

/-- A piece of a template: a marker, or a text. -/
inductive Piece where
  | marker (m : Marker)
  | text (t : Text)
  deriving DecidableEq, Repr

namespace Piece

/-- The piece with values for the markers. -/
def filled (value : Marker → Text) : Piece → Text
  | marker m => value m
  | text t => t

@[simp] theorem filled_marker (value : Marker → Text) (m : Marker) : filled value (marker m) = value m := rfl

@[simp] theorem filled_text (value : Marker → Text) (t : Text) : filled value (text t) = t := rfl

/-- The piece as it stands in the template: a marker is its own value there. -/
def written : Piece → Text := filled Marker.text

end Piece

/-! ## One pass -/

variable {value : Marker → Text}

theorem customize_cons_of_atStart? {c : CodePoint} {t : Text} (h : Marker.atStart? (c :: t) = none) :
    customize value (c :: t) = c :: customize value t := by
  rw [customize, customizeFrom, h]
  rfl

/-- **What stands in front of all markers stays.** -/
theorem customize_append_of_noMarkerStartsBefore {p t : Text}
    (h : NoMarkerStartsBefore p.length (p ++ t)) :
    customize value (p ++ t) = p ++ customize value t := by
  induction p with
  | nil => rfl
  | cons c p ih =>
    rw [List.cons_append, List.length_cons, noMarkerStartsBefore_cons] at h
    rw [List.cons_append, customize_cons_of_atStart? h.1, ih h.2, List.cons_append]

theorem customize_of_not_holdsMarker {t : Text} (h : ¬ HoldsMarker t) : customize value t = t := by
  have hall : NoMarkerStartsBefore t.length (t ++ []) := by
    rw [List.append_nil]
    exact noMarkerStartsBefore_of_not_holdsMarker h _
  have happend : customize value (t ++ []) = t ++ customize value [] :=
    customize_append_of_noMarkerStartsBefore hall
  rwa [customize_nil, List.append_nil] at happend

theorem customize_append_marker {p s : Text} {m : Marker}
    (h : NoMarkerStartsBefore p.length (p ++ (m.text ++ s))) :
    customize value (p ++ (m.text ++ s)) = p ++ (value m ++ customize value s) := by
  rw [customize_append_of_noMarkerStartsBefore h, customize_marker]

/-- Pieces without loose dollar signs are customized one by one. -/
theorem customize_pieces {ps : List Piece} (h : ∀ t, .text t ∈ ps → .scalar '$' ∉ t) :
    customize value (ps.flatMap Piece.written) = ps.flatMap (Piece.filled value) := by
  induction ps with
  | nil => exact customize_nil value
  | cons piece ps ih =>
    have hrest := ih fun t ht => h t (List.mem_cons_of_mem piece ht)
    rw [List.flatMap_cons, List.flatMap_cons, ← hrest]
    cases piece with
    | marker m => exact customize_marker value m _
    | text t => exact customize_append value (h t List.mem_cons_self) _

/-- A way of replacing markers by their values that goes through a text once, from left to right. -/
structure IsOnePass (value : Marker → Text) (replace : Text → Text) : Prop where
  /-- Without a marker nothing changes. -/
  unmarked : ∀ t, ¬ HoldsMarker t → replace t = t
  /-- The first marker is replaced, and then what stands behind it. -/
  first : ∀ (p : Text) (m : Marker) (s : Text), NoMarkerStartsBefore p.length (p ++ (m.text ++ s)) →
    replace (p ++ (m.text ++ s)) = p ++ (value m ++ replace s)
  /-- Of markers and texts without dollar signs, each marker is replaced and each text stays. -/
  pieces : ∀ ps : List Piece, (∀ t, .text t ∈ ps → .scalar '$' ∉ t) →
    replace (ps.flatMap Piece.written) = ps.flatMap (Piece.filled value)

/-- Customizing goes through a text once. -/
theorem isOnePass_customize (value : Marker → Text) : IsOnePass value (customize value) :=
  ⟨fun _ => customize_of_not_holdsMarker, fun _ _ _ => customize_append_marker,
    fun _ => customize_pieces⟩

/-- There is one outcome only: behind the first marker less is left. -/
theorem IsOnePass.eq_customize {replace : Text → Text} (h : IsOnePass value replace) :
    replace = customize value := by
  funext t
  induction hlength : t.length using Nat.strong_induction_on generalizing t with
  | _ n ih =>
    by_cases hmarker : HoldsMarker t
    · obtain ⟨p, m, s, rfl, hp⟩ := hmarker.exists_first
      have hshorter : s.length < n := by
        have hm : 0 < m.text.length := by cases m <;> decide
        simp only [List.length_append] at hlength
        omega
      rw [h.first p m s hp, customize_append_marker hp, ih s.length hshorter s rfl]
    · rw [h.unmarked t hmarker, customize_of_not_holdsMarker hmarker]

/-- **Customizing is a single pass**, and the only one.  The values may be any texts, also such that hold
dollar signs or markers; the id and the uid are values like the others, the same wherever they stand. -/
theorem isOnePass_iff (value : Marker → Text) (replace : Text → Text) :
    IsOnePass value replace ↔ replace = customize value := by
  constructor
  · exact IsOnePass.eq_customize
  · rintro rfl
    exact isOnePass_customize value

/-- Markers that overlap, and values that are markers. -/
example : customize (markerValue "$uid$" "" "\\1$" ⟨7, "$id$"⟩) "$$id$uid$$handlerName$$gavVersion$" =
    ("$7uid$$uid$\\1$" : Text) := by decide

end DashboardSynthesis
