import DashboardSynthesis.Text.Blank
import Mathlib.Data.List.DropRight

/-!
# Cutting and trimming

`afterLast` cuts a text behind the last code point of a kind, and `trimBy` takes the code points of a kind off
both ends.  Every text is put together of what is cut off and what is left (`exists_eq_append_afterLast`,
`exists_eq_append_trimBy`), and in one way only (`afterLast_append`, `trimBy_append`).
-/

namespace DashboardSynthesis
namespace Text

variable {p q : CodePoint → Bool} {s t before after : Text}

/-- The text is empty, or its last code point satisfies `p`. -/
def EndsIn (p : CodePoint → Bool) (t : Text) : Prop := ∀ c ∈ t.getLast?, p c = true

instance (p : CodePoint → Bool) (t : Text) : Decidable (EndsIn p t) :=
  inferInstanceAs (Decidable (∀ c ∈ t.getLast?, p c = true))

/-- No code point at either end satisfies `p`. -/
structure IsTrimmed (p : CodePoint → Bool) (t : Text) : Prop where
  first : ∀ c ∈ t.head?, ¬ p c = true
  last : ∀ c ∈ t.getLast?, ¬ p c = true

/-! ## Behind the last one -/

theorem EndsIn.append (hs : s.EndsIn p) (ht : t.EndsIn p) : (s ++ t).EndsIn p := by
  intro c hc
  rw [List.getLast?_append, Option.mem_def, Option.or_eq_some_iff] at hc
  rcases hc with hc | ⟨-, hc⟩
  · exact ht c hc
  · exact hs c hc

theorem EndsIn.append_of_ne_nil (ht : t.EndsIn p) (hne : t ≠ []) (s : Text) : (s ++ t).EndsIn p := by
  intro c hc
  rw [List.getLast?_append_of_ne_nil s hne] at hc
  exact ht c hc

theorem EndsIn.imp (ht : t.EndsIn p) (h : ∀ c, p c = true → q c = true) : t.EndsIn q :=
  fun c hc => h c (ht c hc)

theorem afterLast_append (hs : s.EndsIn p) (ht : ∀ c ∈ t, ¬ p c = true) :
    afterLast p (s ++ t) = t := by
  have hnone : s.reverse.takeWhile (fun c => !p c) = [] := by
    rw [← List.reverse_eq_nil_iff]
    refine List.rtakeWhile_eq_nil_iff.2 fun hne => ?_
    simpa using hs _ (List.getLast?_eq_some_getLast hne)
  rw [afterLast, List.reverse_append, List.takeWhile_append_of_pos (by simpa using ht), hnone,
    List.append_nil, List.reverse_reverse]

theorem exists_eq_append_afterLast (p : CodePoint → Bool) (t : Text) :
    ∃ s, t = s ++ afterLast p t ∧ s.EndsIn p ∧ ∀ c ∈ afterLast p t, ¬ p c = true := by
  refine ⟨t.rdropWhile fun c => !p c, List.rdropWhile_append_rtakeWhile.symm, ?_, ?_⟩
  · intro c hc
    obtain ⟨hne, rfl⟩ := List.mem_getLast?_eq_getLast hc
    simpa using List.rdropWhile_last_not (fun c => !p c) t hne
  · intro c hc
    simpa using List.mem_rtakeWhile_imp (p := fun c => !p c) hc

/-- Cutting behind the last of one kind, and what is left behind the last of another kind, is cutting behind
the last of either kind. -/
theorem afterLast_afterLast (p q : CodePoint → Bool) (t : Text) :
    afterLast p (afterLast q t) = afterLast (fun c => q c || p c) t := by
  obtain ⟨s, ht, hs, hq⟩ := exists_eq_append_afterLast q t
  obtain ⟨s', hrest, hs', hp⟩ := exists_eq_append_afterLast p (afterLast q t)
  have hboth : t = (s ++ s') ++ afterLast p (afterLast q t) := by
    rw [List.append_assoc, ← hrest]
    exact ht
  have hends : (s ++ s').EndsIn fun c => q c || p c :=
    (hs.imp fun c hc => by simp [hc]).append (hs'.imp fun c hc => by simp [hc])
  have hnone : ∀ c ∈ afterLast p (afterLast q t), ¬ (q c || p c) = true := by
    intro c hc
    have hcq := hq c (hrest ▸ List.mem_append_right s' hc)
    simp [hcq, hp c hc]
  conv_rhs => rw [hboth]
  exact (afterLast_append hends hnone).symm

/-! ## Off both ends -/

theorem trimBy_append (hbefore : ∀ c ∈ before, p c = true) (hafter : ∀ c ∈ after, p c = true)
    (ht : IsTrimmed p t) : trimBy p (before ++ t ++ after) = t := by
  have hstart : trimStart p (before ++ t ++ after) = (t ++ after).dropWhile p := by
    rw [trimStart, List.append_assoc, List.dropWhile_append_of_pos hbefore]
  have hend : trimEnd p (t ++ after) = t := by
    have hself : t.rdropWhile p = t :=
      List.rdropWhile_eq_self_iff.2 fun hne => ht.last _ (List.getLast?_eq_some_getLast hne)
    rw [trimEnd, List.reverse_append, List.dropWhile_append_of_pos (by simpa using hafter)]
    exact hself
  rw [trimBy, hstart]
  cases t with
  | nil =>
    rw [List.nil_append, List.dropWhile_eq_nil_iff.2 hafter]
    rfl
  | cons c t =>
    rw [List.cons_append, List.dropWhile_cons_of_neg (ht.first c rfl)]
    exact hend

theorem isTrimmed_trimBy (p : CodePoint → Bool) (t : Text) : IsTrimmed p (trimBy p t) := by
  constructor
  · intro c hc
    -- what is left begins as the text does without its first code points
    obtain ⟨rest, hrest⟩ := List.rdropWhile_prefix p (trimStart p t)
    have hfirst : (trimStart p t).head? = some c := by
      have hleft : ((trimStart p t).rdropWhile p).head? = some c := hc
      rw [← hrest, List.head?_append, hleft]
      rfl
    have hnot := List.head?_dropWhile_not p t
    rw [← trimStart, hfirst] at hnot
    simpa using hnot
  · intro c hc
    obtain ⟨hne, rfl⟩ := List.mem_getLast?_eq_getLast hc
    exact List.rdropWhile_last_not p (trimStart p t) hne

theorem exists_eq_append_trimBy (p : CodePoint → Bool) (t : Text) :
    ∃ before after, t = before ++ trimBy p t ++ after ∧ (∀ c ∈ before, p c = true) ∧
      ∀ c ∈ after, p c = true := by
  refine ⟨t.takeWhile p, (trimStart p t).rtakeWhile p, ?_, ?_, ?_⟩
  · have hstart : t.takeWhile p ++ trimStart p t = t := List.takeWhile_append_dropWhile
    have hend : trimBy p t ++ (trimStart p t).rtakeWhile p = trimStart p t :=
      List.rdropWhile_append_rtakeWhile
    rw [List.append_assoc, hend, hstart]
  · exact fun c hc => List.mem_takeWhile_imp hc
  · exact fun c hc => List.mem_rtakeWhile_imp hc

end Text
end DashboardSynthesis
