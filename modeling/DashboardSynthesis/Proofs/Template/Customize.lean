import DashboardSynthesis.Template.Library
import Mathlib.Data.List.Infix

/-!
# Customizing piece by piece

Customizing goes through a template from left to right, so it can be computed piece by piece: a piece
without a dollar sign stays as it is (`customize_append`), and a marker is replaced and never looked at
again (`customize_marker`).  No marker spans lines, so a template may be customized line by line
(`customize_unlines`), whatever the values are.

A stretch of the outcome without a line feed therefore lies in a single customized line
(`exists_line_of_infix`).
-/

namespace DashboardSynthesis

/-! ## Stretches of a text -/

section Stretches

variable {α : Type} {a b x : List α} {c : α}

/-- A stretch at the start that does not hold `c` ends in front of it. -/
theorem prefix_of_prefix_append (h : x <+: a ++ c :: b) (hc : c ∉ x) : x <+: a := by
  rcases List.prefix_or_prefix_of_prefix h (List.prefix_append a (c :: b)) with h' | ⟨y, rfl⟩
  · exact h'
  · rw [List.prefix_append_right_inj] at h
    cases y with
    | nil => rw [List.append_nil]
    | cons d y =>
      have hd : d = c := (List.cons_prefix_cons.1 h).1
      exact absurd (List.mem_append_right _ (hd ▸ List.mem_cons_self)) hc

/-- A stretch that does not hold `c` lies on one side of it. -/
theorem infix_or_infix_of_infix_append (h : x <:+: a ++ c :: b) (hc : c ∉ x) :
    x <:+: a ∨ x <:+: b := by
  induction a with
  | nil =>
    rcases List.infix_cons_iff.1 h with h | h
    · exact .inl (prefix_of_prefix_append h hc).isInfix
    · exact .inr h
  | cons d a ih =>
    rcases List.infix_cons_iff.1 h with h | h
    · exact .inl (prefix_of_prefix_append h hc).isInfix
    · exact (ih h).imp_left fun h => List.infix_cons h

end Stretches

/-! ## Pieces -/

variable (value : Marker → Text)

theorem customizeFrom_eq_drop (skip : ℕ) (t : Text) :
    customizeFrom value skip t = customize value (t.drop skip) := by
  induction skip generalizing t with
  | zero => rfl
  | succ skip ih =>
    cases t with
    | nil => rw [List.drop_nil, customize, customizeFrom, customizeFrom]
    | cons c t => rw [customizeFrom, List.drop_succ_cons, ih]

/-- Each marker starts with a dollar sign. -/
theorem Marker.atStart?_cons_of_ne {c : CodePoint} (hc : c ≠ .scalar '$') (t : Text) :
    atStart? (c :: t) = none := by
  have hstart : ∀ m ∈ all, ∃ rest, m.text = .scalar '$' :: rest := by
    intro m _
    cases m <;> exact ⟨_, rfl⟩
  rw [atStart?, List.find?_eq_none]
  intro m hm hprefix
  obtain ⟨rest, hrest⟩ := hstart m hm
  rw [hrest, List.isPrefixOf_cons_cons, Bool.and_eq_true, beq_iff_eq] at hprefix
  exact hc hprefix.1.symm

theorem Marker.atStart?_text_append (m : Marker) (t : Text) : atStart? (m.text ++ t) = some m := by
  cases m <;> rfl

theorem customize_nil : customize value [] = [] := by rw [customize, customizeFrom]

theorem customize_cons_of_ne {c : CodePoint} (hc : c ≠ .scalar '$') (t : Text) :
    customize value (c :: t) = c :: customize value t := by
  rw [customize, customizeFrom, Marker.atStart?_cons_of_ne hc]
  rfl

/-- **What has no dollar sign stays.** -/
theorem customize_append {a : Text} (ha : .scalar '$' ∉ a) (b : Text) :
    customize value (a ++ b) = a ++ customize value b := by
  induction a with
  | nil => rfl
  | cons c a ih =>
    rw [List.mem_cons, not_or] at ha
    rw [List.cons_append, customize_cons_of_ne value (Ne.symm ha.1), ih ha.2, List.cons_append]

theorem customize_of_not_mem {t : Text} (h : .scalar '$' ∉ t) : customize value t = t := by
  have happend := customize_append value h []
  rwa [customize_nil, List.append_nil] at happend

/-- **A marker is replaced.** -/
theorem customize_marker (m : Marker) (t : Text) :
    customize value (m.text ++ t) = value m ++ customize value t := by
  obtain ⟨c, rest, hm⟩ : ∃ c rest, m.text = c :: rest := by cases m <;> exact ⟨_, _, rfl⟩
  have hstart := Marker.atStart?_text_append m t
  rw [hm, List.cons_append] at hstart ⊢
  rw [customize, customizeFrom, hstart]
  dsimp only
  rw [customizeFrom_eq_drop, hm, List.length_cons, Nat.add_sub_cancel, List.drop_left]

/-! ## Lines -/

theorem Marker.not_mem_text (m : Marker) : CodePoint.scalar '\n' ∉ m.text := by
  cases m <;> decide

/-- What starts with a marker does so in its first line. -/
theorem Marker.atStart?_append_lineFeed (a b : Text) :
    atStart? (a ++ .scalar '\n' :: b) = atStart? a := by
  rw [atStart?, atStart?]
  congr 1
  funext m
  rw [Bool.eq_iff_iff, List.isPrefixOf_iff_prefix, List.isPrefixOf_iff_prefix]
  exact ⟨fun h => prefix_of_prefix_append h m.not_mem_text,
    fun h => h.trans (List.prefix_append a _)⟩

theorem customizeFrom_append_lineFeed {skip : ℕ} {a : Text} (hskip : skip ≤ a.length) (b : Text) :
    customizeFrom value skip (a ++ .scalar '\n' :: b) =
      customizeFrom value skip a ++ .scalar '\n' :: customize value b := by
  induction a generalizing skip with
  | nil =>
    obtain rfl : skip = 0 := Nat.le_zero.1 hskip
    rw [List.nil_append, customizeFrom.eq_1]
    exact customize_cons_of_ne value (by decide) b
  | cons c a ih =>
    cases skip with
    | succ skip =>
      rw [List.cons_append, customizeFrom, customizeFrom, ih (Nat.le_of_succ_le_succ hskip)]
    | zero =>
      have hstart := Marker.atStart?_append_lineFeed (c :: a) b
      rw [List.cons_append] at hstart ⊢
      rw [customizeFrom, customizeFrom, hstart]
      cases hm : Marker.atStart? (c :: a) with
      | none =>
        dsimp only
        rw [ih (Nat.zero_le _), List.cons_append]
      | some m =>
        have hlength : m.text.length ≤ (c :: a).length := by
          have hfound := List.find?_some hm
          exact (List.isPrefixOf_iff_prefix.1 hfound).length_le
        dsimp only
        rw [ih (by rw [List.length_cons] at hlength; omega), List.append_assoc]

/-- **A template is customized line by line.** -/
theorem customize_unlines (lines : List String) :
    customize value (Library.unlines lines) =
      lines.flatMap fun line => customize value (Text.ofString line) ++ [.scalar '\n'] := by
  induction lines with
  | nil => exact customize_nil value
  | cons line lines ih =>
    have hcons : Library.unlines (line :: lines) =
        Text.ofString line ++ .scalar '\n' :: Library.unlines lines := by
      rw [Library.unlines, List.flatMap_cons, List.append_assoc]
      rfl
    rw [hcons, customize, customizeFrom_append_lineFeed value (Nat.zero_le _), ih, List.flatMap_cons,
      List.append_assoc]
    rfl

/-- A stretch without a line feed lies in a single customized line. -/
theorem exists_line_of_infix {lines : List String} {x : Text} (hne : x ≠ [])
    (hx : .scalar '\n' ∉ x) (h : x <:+: customize value (Library.unlines lines)) :
    ∃ line ∈ lines, x <:+: customize value (Text.ofString line) := by
  rw [customize_unlines] at h
  induction lines with
  | nil => exact absurd (List.infix_nil.1 h) hne
  | cons line lines ih =>
    rw [List.flatMap_cons, List.append_assoc] at h
    rcases infix_or_infix_of_infix_append h hx with h | h
    · exact ⟨line, List.mem_cons_self, h⟩
    · obtain ⟨other, hother, h⟩ := ih h
      exact ⟨other, List.mem_cons_of_mem _ hother, h⟩

end DashboardSynthesis
