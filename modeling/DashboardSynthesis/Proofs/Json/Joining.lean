import DashboardSynthesis.Proofs.Json.String
import DashboardSynthesis.Proofs.PromQL.Selector
import DashboardSynthesis.Proofs.Text.Scalars
import Mathlib.Data.List.Chain

/-!
# Surrogates that are joined

A text that is written in escapes and read back is the same text, except that a surrogate has become
one with its partner right behind it (`Json.joined`).  So it is the same exactly if no such pair is in it
(`joined_eq_self_iff`), as in a text without surrogates (`joined_of_isScalar`).

A pair is found on one side of any other code point or on the other.  Literals, and labels with their
values, consist of such code points but for what is quoted in them, so joining goes through to that
(`joined_quoted_append`, `joined_labelsText`).
-/

namespace DashboardSynthesis

/-- Is this the first one of two surrogates that make a pair? -/
def CodePoint.isHigh : CodePoint → Bool
  | scalar _ => false
  | surrogate n => n.val < 0x400

/-- Is this the second one? -/
def CodePoint.isLow : CodePoint → Bool
  | scalar _ => false
  | surrogate n => 0x400 ≤ n.val

/-- No two surrogates that stand next to each other make a pair. -/
def Text.IsUnpaired (t : Text) : Prop := t.IsChain fun a b => ¬ (a.isHigh = true ∧ b.isLow = true)

instance (t : Text) : Decidable t.IsUnpaired := inferInstanceAs (Decidable (List.IsChain _ _))

namespace Json

variable {s t : Text}

/-! ## One code point after the other -/

theorem joined_scalar_cons (c : Char) (t : Text) : joined (.scalar c :: t) = .scalar c :: joined t := rfl

theorem toList_ofNat?_surrogate (n : Fin 2048) :
    (CodePoint.ofNat? (0xD800 + n.val)).toList = [.surrogate n] := by
  have hself : CodePoint.ofNat? (0xD800 + n.val) = some (.surrogate n) :=
    CodePoint.ofNat?_value (.surrogate n)
  rw [hself]
  rfl

/-- A pair becomes one code point, far from those that are escaped in literals. -/
theorem exists_joined_pair {high low : Fin 2048}
    (h : (CodePoint.surrogate high).isHigh = true ∧ (CodePoint.surrogate low).isLow = true) :
    ∃ c : Char, PromQL.escape (.scalar c) = [.scalar c] ∧
      ∀ t, joined (.surrogate high :: .surrogate low :: t) = .scalar c :: joined t := by
  obtain ⟨hhigh, hlow⟩ := h
  replace hhigh : high.val < 0x400 := of_decide_eq_true hhigh
  replace hlow : 0x400 ≤ low.val := of_decide_eq_true hlow
  have hbound := low.isLt
  obtain ⟨n, hn⟩ : ∃ n, n = 0x10000 + (0xD800 + high.val - 0xD800) * 0x400 + (0xD800 + low.val - 0xDC00) :=
    ⟨_, rfl⟩
  have hvalid : n.isValidChar := .inr (by omega)
  obtain ⟨c, hvalue, hscalar⟩ : ∃ c : Char, c.toNat = n ∧ CodePoint.ofNat? n = some (.scalar c) :=
    ⟨Char.ofNatAux n hvalid, rfl, dif_pos hvalid⟩
  refine ⟨c, ?_, fun t => ?_⟩
  · rw [PromQL.escape.eq_def]
    split
    case h_4 => rfl
    all_goals
      next heq =>
      rw [CodePoint.scalar.inj heq] at hvalue
      exact absurd hvalue (by rw [hn]; simp; omega)
  · have hpair : joined (.surrogate high :: .surrogate low :: t) = _ := if_pos (by omega)
    rw [hpair, ← hn, hscalar]
    rfl

/-- A surrogate without a partner stays. -/
theorem joined_surrogate_cons {n : Fin 2048}
    (h : ∀ c ∈ t.head?, ¬ ((CodePoint.surrogate n).isHigh = true ∧ c.isLow = true)) :
    joined (.surrogate n :: t) = .surrogate n :: joined t := by
  have hself := toList_ofNat?_surrogate n
  have happend : joined (.surrogate n :: t) = (CodePoint.ofNat? (0xD800 + n.val)).toList ++ joined t := by
    cases t with
    | nil => rfl
    | cons c t =>
      cases c with
      | scalar c => rfl
      | surrogate low =>
        have halone := h (.surrogate low) rfl
        rw [CodePoint.isHigh, CodePoint.isLow, decide_eq_true_iff, decide_eq_true_iff] at halone
        exact if_neg (by omega)
  rw [happend, hself]
  rfl

/-- Induction along the joining of a text. -/
@[elab_as_elim]
theorem joined_induction {motive : Text → Prop} (nil : motive [])
    (scalar : ∀ c t, motive t → motive (.scalar c :: t))
    (pair : ∀ high low t, (CodePoint.surrogate high).isHigh = true ∧
      (CodePoint.surrogate low).isLow = true → motive t → motive (.surrogate high :: .surrogate low :: t))
    (alone : ∀ n t, (∀ c ∈ t.head?, ¬ ((CodePoint.surrogate n).isHigh = true ∧ c.isLow = true)) →
      motive t → motive (.surrogate n :: t)) :
    ∀ t, motive t
  | [] => nil
  | .scalar c :: t => scalar c t (joined_induction nil scalar pair alone t)
  | [.surrogate n] => alone n [] (fun _ h => absurd h (by simp)) nil
  | .surrogate n :: .scalar c :: t =>
    alone n _ (fun d hd => by rw [← Option.some_inj.1 hd]; exact fun h => Bool.false_ne_true h.2)
      (scalar c t (joined_induction nil scalar pair alone t))
  | .surrogate high :: .surrogate low :: t =>
    if h : (CodePoint.surrogate high).isHigh = true ∧ (CodePoint.surrogate low).isLow = true then
      pair high low t h (joined_induction nil scalar pair alone t)
    else
      alone high _ (fun c hc => by rw [← Option.some_inj.1 hc]; exact h)
        (joined_induction nil scalar pair alone (.surrogate low :: t))

/-! ## Texts that stay as they are -/

theorem length_joined_le (t : Text) : (joined t).length ≤ t.length := by
  induction t using joined_induction with
  | nil => exact Nat.le_refl _
  | scalar c t ih => exact Nat.succ_le_succ ih
  | pair high low t h ih =>
    obtain ⟨c, -, hjoined⟩ := exists_joined_pair h
    rw [hjoined]
    simp only [List.length_cons]
    omega
  | alone n t h ih =>
    rw [joined_surrogate_cons h]
    exact Nat.succ_le_succ ih

/-- **A text stays as it is exactly if no pair is in it.** -/
theorem joined_eq_self_iff : joined t = t ↔ t.IsUnpaired := by
  induction t using joined_induction with
  | nil => exact iff_of_true rfl List.IsChain.nil
  | scalar c t ih =>
    rw [joined_scalar_cons, List.cons_inj_right, ih, Text.IsUnpaired, Text.IsUnpaired, List.isChain_cons]
    exact (and_iff_right fun d _ h => Bool.false_ne_true h.1).symm
  | pair high low t h ih =>
    refine iff_of_false (fun heq => ?_) fun hchain => (List.isChain_cons_cons.1 hchain).1 h
    -- the pair has become one, so the text is shorter
    obtain ⟨c, -, hjoined⟩ := exists_joined_pair h
    have hlength := congrArg List.length heq
    have hle := length_joined_le t
    rw [hjoined] at hlength
    simp only [List.length_cons] at hlength
    omega
  | alone n t h ih =>
    rw [joined_surrogate_cons h, List.cons_inj_right, ih, Text.IsUnpaired, Text.IsUnpaired,
      List.isChain_cons]
    exact (and_iff_right h).symm

theorem joined_append_of_isScalar (hs : s.IsScalar) (t : Text) : joined (s ++ t) = s ++ joined t := by
  induction s with
  | nil => rfl
  | cons c s ih =>
    rw [Text.isScalar_cons] at hs
    cases c with
    | scalar c => rw [List.cons_append, joined_scalar_cons, ih hs.2, List.cons_append]
    | surrogate n => exact absurd hs.1 (by simp [CodePoint.isScalar])

theorem joined_of_isScalar (h : t.IsScalar) : joined t = t := by
  have hjoined := joined_append_of_isScalar h []
  rwa [List.append_nil, show joined [] = [] from rfl, List.append_nil] at hjoined

/-! ## Texts that are put together -/

/-- A pair does not reach across another code point. -/
theorem joined_append_scalar_cons (s : Text) (c : Char) (t : Text) :
    joined (s ++ .scalar c :: t) = joined s ++ .scalar c :: joined t := by
  induction s using joined_induction with
  | nil => rfl
  | scalar d s ih => rw [List.cons_append, joined_scalar_cons, joined_scalar_cons, ih, List.cons_append]
  | pair high low s h ih =>
    obtain ⟨d, -, hjoined⟩ := exists_joined_pair h
    rw [List.cons_append, List.cons_append, hjoined, hjoined, ih, List.cons_append]
  | alone n s h ih =>
    have hbehind : ∀ d ∈ (s ++ .scalar c :: t).head?,
        ¬ ((CodePoint.surrogate n).isHigh = true ∧ d.isLow = true) := by
      cases s with
      | nil =>
        intro d hd
        rw [← Option.some_inj.1 hd]
        exact fun h => Bool.false_ne_true h.2
      | cons e s => exact h
    rw [List.cons_append, joined_surrogate_cons hbehind, joined_surrogate_cons h, ih, List.cons_append]

/-- Nor does it reach into a text that starts with another code point. -/
theorem joined_append_of_head (h : ∀ c ∈ t.head?, c.isScalar = true) :
    joined (s ++ t) = joined s ++ joined t := by
  cases t with
  | nil => rw [List.append_nil, show joined [] = [] from rfl, List.append_nil]
  | cons c t =>
    cases c with
    | scalar c => exact joined_append_scalar_cons s c t
    | surrogate n => exact absurd (h _ rfl) (by simp [CodePoint.isScalar])

theorem isScalar_escape_scalar (c : Char) : (PromQL.escape (.scalar c)).IsScalar := by
  rw [PromQL.escape.eq_def]
  split <;> simp

/-- What is escaped starts with a surrogate only where the text does. -/
theorem mem_head?_of_mem_head?_escape {c : CodePoint} (h : c ∈ (t.flatMap PromQL.escape).head?)
    (hlow : c.isLow = true) : c ∈ t.head? := by
  cases t with
  | nil => exact h
  | cons d t =>
    cases d with
    | surrogate m => exact h
    | scalar d =>
      have hne : PromQL.escape (.scalar d) ≠ [] := by
        rw [PromQL.escape.eq_def]
        split <;> simp [Text.ofString]
      rw [List.flatMap_cons, List.head?_append_of_ne_nil _ hne] at h
      have hplain := isScalar_escape_scalar d c (List.mem_of_mem_head? h)
      cases c with
      | scalar c => exact absurd hlow Bool.false_ne_true
      | surrogate m => exact absurd hplain Bool.false_ne_true

theorem joined_flatMap_escape (t : Text) :
    joined (t.flatMap PromQL.escape) = (joined t).flatMap PromQL.escape := by
  induction t using joined_induction with
  | nil => rfl
  | scalar c t ih =>
    rw [List.flatMap_cons, joined_append_of_isScalar (isScalar_escape_scalar c), joined_scalar_cons,
      List.flatMap_cons, ih]
  | pair high low t h ih =>
    obtain ⟨c, hescape, hjoined⟩ := exists_joined_pair h
    calc joined ((.surrogate high :: .surrogate low :: t).flatMap PromQL.escape)
        = .scalar c :: joined (t.flatMap PromQL.escape) := hjoined _
      _ = (.scalar c :: joined t).flatMap PromQL.escape := by rw [List.flatMap_cons, hescape, ih]; rfl
      _ = (joined (.surrogate high :: .surrogate low :: t)).flatMap PromQL.escape := by rw [hjoined]
  | alone n t h ih =>
    have hbehind : ∀ c ∈ (t.flatMap PromQL.escape).head?,
        ¬ ((CodePoint.surrogate n).isHigh = true ∧ c.isLow = true) :=
      fun c hc hpair => h c (mem_head?_of_mem_head?_escape hc hpair.2) hpair
    calc joined ((.surrogate n :: t).flatMap PromQL.escape)
        = .surrogate n :: joined (t.flatMap PromQL.escape) := joined_surrogate_cons hbehind
      _ = (.surrogate n :: joined t).flatMap PromQL.escape := by rw [List.flatMap_cons, ih]; rfl
      _ = (joined (.surrogate n :: t)).flatMap PromQL.escape := by rw [joined_surrogate_cons h]

theorem joined_quoted_append (value rest : Text) :
    joined (PromQL.quoted value ++ rest) = PromQL.quoted (joined value) ++ joined rest := by
  have htext : ∀ value rest, PromQL.quoted value ++ rest =
      .scalar '"' :: (value.flatMap PromQL.escape ++ .scalar '"' :: rest) := by
    intro value rest
    simp [PromQL.quoted, Text.ofString]
  rw [htext, joined_scalar_cons, joined_append_scalar_cons, joined_flatMap_escape, htext]

/-- Joining goes through to the values of labels. -/
theorem joined_labelsText {labels : List (Text × Text)} (h : ∀ l ∈ labels, l.1.IsScalar) (rest : Text) :
    joined (PromQL.labelsText labels rest) =
      PromQL.labelsText (labels.map fun l => (l.1, joined l.2)) (joined rest) := by
  induction labels with
  | nil => rfl
  | cons l labels ih =>
    obtain ⟨hlabel, hlabels⟩ := List.forall_mem_cons.1 h
    rcases labels with _ | ⟨next, labels⟩
    · have htext : ∀ value rest, PromQL.labelsText [(l.1, value)] rest =
          l.1 ++ .scalar '=' :: (PromQL.quoted value ++ rest) := by
        intro value rest
        simp [PromQL.labelsText, PromQL.matchersFor, PromQL.Matcher.render, Text.joinWith]
      rw [htext, joined_append_of_isScalar hlabel, joined_scalar_cons, joined_quoted_append,
        List.map_singleton, htext]
    · have htext : ∀ value next labels rest, PromQL.labelsText ((l.1, value) :: next :: labels) rest =
          l.1 ++ .scalar '=' ::
            (PromQL.quoted value ++ .scalar ',' :: PromQL.labelsText (next :: labels) rest) := by
        intro value next labels rest
        simp [PromQL.labelsText, PromQL.matchersFor, PromQL.Matcher.render, Text.joinWith, Text.ofString]
      rw [htext, joined_append_of_isScalar hlabel, joined_scalar_cons, joined_quoted_append,
        joined_scalar_cons, ih hlabels]
      exact (htext _ _ _ _).symm

end Json
end DashboardSynthesis
