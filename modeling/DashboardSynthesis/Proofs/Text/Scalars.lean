import DashboardSynthesis.Decimal.Shortest
import DashboardSynthesis.Text.Utf8
import Mathlib.Data.List.Basic

/-!
# Texts without surrogates

A text can be stored exactly if it holds no surrogate (`encode?_isSome_iff`).  Whether a text that is put
together holds one is a question about its parts, which the lemmas tagged for `simp` take it to; numerals and
ordinary strings hold none.
-/

namespace DashboardSynthesis

@[simp] theorem CodePoint.isScalar_scalar (c : Char) : (CodePoint.scalar c).isScalar = true := rfl

namespace Text

variable {s t : Text} {c : CodePoint}

@[simp] theorem isScalar_nil : IsScalar [] := fun _ h => absurd h List.not_mem_nil

@[simp] theorem isScalar_cons : IsScalar (c :: t) ↔ c.isScalar = true ∧ t.IsScalar :=
  List.forall_mem_cons

@[simp] theorem isScalar_append : IsScalar (s ++ t) ↔ s.IsScalar ∧ t.IsScalar :=
  List.forall_mem_append

theorem IsScalar.of_subset (h : t.IsScalar) (hs : s ⊆ t) : s.IsScalar := fun c hc => h c (hs hc)

@[simp] theorem isScalar_ofString (s : String) : (ofString s).IsScalar := by
  intro c hc
  obtain ⟨char, -, rfl⟩ := List.mem_map.1 hc
  rfl

@[simp] theorem isScalar_ofNat (n : Nat) : (ofNat n).IsScalar := by
  intro c hc
  obtain ⟨char, -, rfl⟩ := List.mem_map.1 hc
  rfl

@[simp] theorem isScalar_ofInt (n : Int) : (ofInt n).IsScalar := by
  cases n with
  | ofNat n => exact isScalar_ofNat n
  | negSucc n => exact isScalar_cons.2 ⟨rfl, isScalar_ofNat (n + 1)⟩

@[simp] theorem isScalar_replicate (n : Nat) (c : Char) :
    IsScalar (List.replicate n (CodePoint.scalar c)) := by
  intro d hd
  rw [List.eq_of_mem_replicate hd]
  rfl

theorem isScalar_flatMap {f : CodePoint → Text} (h : ∀ c, (f c).IsScalar ↔ c.isScalar = true) :
    IsScalar (t.flatMap f) ↔ t.IsScalar := by
  induction t with
  | nil => simp
  | cons c t ih => rw [List.flatMap_cons, isScalar_append, isScalar_cons, ih, h]

theorem isScalar_joinWith {sep : Text} (hsep : sep.IsScalar) {ts : List Text} (h : ∀ t ∈ ts, t.IsScalar) :
    (joinWith sep ts).IsScalar := by
  fun_induction joinWith sep ts with
  | case1 => simp
  | case2 t => exact h t List.mem_cons_self
  | case3 t rest _ ih =>
    obtain ⟨ht, hrest⟩ := List.forall_mem_cons.1 h
    simp [ht, hsep, ih hrest]

/-! ## Storing -/

theorem mapM_char?_isSome_iff : (t.mapM CodePoint.char?).isSome = true ↔ t.IsScalar := by
  induction t with
  | nil => simp
  | cons c t ih =>
    rw [isScalar_cons, ← ih, List.mapM_cons]
    cases c with
    | surrogate n => simp [CodePoint.char?, CodePoint.isScalar]
    | scalar c => cases t.mapM CodePoint.char? <;> simp [CodePoint.char?]

/-- **A text can be stored exactly if it holds no surrogate.** -/
theorem encode?_isSome_iff : t.encode?.isSome = true ↔ t.IsScalar := by
  rw [encode?, toString?, Option.isSome_map, Option.isSome_map, mapM_char?_isSome_iff]

end Text

/-! ## Floating-point numbers -/

namespace Shortest

open Text

variable {digits : Text}

theorem isScalar_significantDigits (n : Nat) : (significantDigits n).IsScalar := by
  refine (isScalar_ofNat n).of_subset fun c hc => ?_
  rw [significantDigits, List.mem_reverse] at hc
  exact List.mem_reverse.1 ((List.dropWhile_sublist _).subset hc)

theorem isScalar_exponentText (e : Int) : (exponentText e).IsScalar := by
  rw [exponentText, isScalar_append]
  refine ⟨?_, ?_⟩ <;> split <;> simp [zeros]

theorem isScalar_layout (h : digits.IsScalar) (point : Int) : (layout digits point).IsScalar := by
  rw [layout.eq_def]
  split
  · split
    · simp [zeros, h]
    · dsimp only
      split
      · simp [zeros, h]
      · simp [h.of_subset (List.take_subset _ _), h.of_subset (List.drop_subset _ _)]
  · split
    · simp
    · simpa [isScalar_exponentText] using h
    · simpa [isScalar_exponentText] using h

/-- A number is spelled without surrogates, unless the names have some. -/
theorem isScalar_text {names : Names} (hnan : names.nan.IsScalar) (hinfinity : names.infinity.IsScalar)
    (hnegative : names.negativeInfinity.IsScalar) (x : Binary64) : (text names x).IsScalar := by
  cases x with
  | nan => exact hnan
  | infinite negative =>
    cases negative with
    | false => exact hinfinity
    | true => exact hnegative
  | finite negative significand exponent =>
    have hmagnitude : IsScalar (if significand = 0 then ("0.0" : Text) else
        layout (significantDigits (ofPositive significand exponent).digits)
          ((ofPositive significand exponent).exponent +
            (Text.ofNat (ofPositive significand exponent).digits).length)) := by
      split
      · exact isScalar_ofString _
      · exact isScalar_layout (isScalar_significantDigits _) _
    cases negative with
    | false => exact hmagnitude
    | true => exact isScalar_cons.2 ⟨rfl, hmagnitude⟩

end Shortest
end DashboardSynthesis
