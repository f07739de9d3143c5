import DashboardSynthesis.Json.Printer
import DashboardSynthesis.Proofs.Decimal.ReadBack

/-!
# Numbers in JSON read back

An integer under the digit limit and a canonical floating-point number, as they are written, are read
as what they are, whatever text follows, if only that text cannot belong to a number
(`readAtom_ofInt`, `readAtom_floatText`).

`EndsNumber` says this of the text that follows.  It is not enough that no digit follows: behind an
integer a point or an exponent would be read as well.
-/

namespace DashboardSynthesis
namespace Json

open Shortest (Numeral exponentText zeros)

/-! ## What follows a number -/

/-- The text does not go on with what may belong to a number. -/
def EndsNumber (t : Text) : Prop :=
  ∀ c, t.head? = some c →
    c.isDigit = false ∧ c ≠ .scalar '.' ∧ c ≠ .scalar 'e' ∧ c ≠ .scalar 'E'

/-- The text does not go on with a digit. -/
def EndsDigits (t : Text) : Prop := ∀ c, t.head? = some c → c.isDigit = false

theorem EndsNumber.endsDigits {t : Text} (h : EndsNumber t) : EndsDigits t := fun c hc => (h c hc).1

theorem endsDigits_cons {c : CodePoint} (h : c.isDigit = false) (t : Text) : EndsDigits (c :: t) := by
  intro d hd
  rw [List.head?_cons, Option.some_inj] at hd
  rw [← hd]
  exact h

/-! ## Parts of a number -/

theorem spanDigits_append {digits rest : Text} (hdigits : Text.IsDigits digits)
    (hrest : EndsDigits rest) : spanDigits (digits ++ rest) = (digits, rest) := by
  have htake : rest.takeWhile CodePoint.isDigit = [] := by
    cases rest with
    | nil => rfl
    | cons c rest => rw [List.takeWhile_cons, hrest c rfl, if_neg Bool.false_ne_true]
  have hdrop : rest.dropWhile CodePoint.isDigit = rest := by
    cases rest with
    | nil => rfl
    | cons c rest => rw [List.dropWhile_cons, hrest c rfl, if_neg Bool.false_ne_true]
  rw [spanDigits, List.takeWhile_append_of_pos hdigits, List.dropWhile_append_of_pos hdigits, htake,
    hdrop, List.append_nil]

theorem spanWhole_append {whole rest : Text} (hdigits : Text.IsDigits whole) (hne : whole ≠ [])
    (hhead : whole = [.scalar '0'] ∨ whole.head? ≠ some (.scalar '0')) (hrest : EndsDigits rest) :
    spanWhole (whole ++ rest) = (whole, rest) := by
  rcases hhead with rfl | hhead
  · rfl
  · obtain ⟨c, whole, rfl⟩ := List.exists_cons_of_ne_nil hne
    rw [List.head?_cons, Ne, Option.some_inj] at hhead
    rw [List.cons_append, spanWhole, if_neg hhead, ← List.cons_append]
    exact spanDigits_append hdigits hrest

theorem spanFraction_append {fraction rest : Text} (hdigits : Text.IsDigits fraction)
    (hne : fraction ≠ []) (hrest : EndsDigits rest) :
    spanFraction (.scalar '.' :: (fraction ++ rest)) = (some fraction, rest) := by
  rw [spanFraction, spanDigits_append hdigits hrest]
  dsimp only
  rw [if_neg (by simpa using hne)]

theorem spanFraction_of_head {t : Text} (h : t.head? ≠ some (.scalar '.')) :
    spanFraction t = (none, t) := by
  unfold spanFraction
  split
  · exact absurd rfl h
  · rfl

theorem spanExponent_of_head {t : Text}
    (h : ∀ c, t.head? = some c → c ≠ .scalar 'e' ∧ c ≠ .scalar 'E') :
    spanExponent t = (none, t) := by
  cases t with
  | nil => rfl
  | cons c t =>
    obtain ⟨h1, h2⟩ := h c rfl
    have hne : ¬ (c = .scalar 'e' ∨ c = .scalar 'E') := not_or.2 ⟨h1, h2⟩
    unfold spanExponent
    exact if_neg hne

/-- An exponent that was written is read. -/
theorem spanExponent_append (e : ℤ) {rest : Text} (hrest : EndsDigits rest) :
    spanExponent (exponentText e ++ rest) = (some e, rest) := by
  obtain ⟨k, hk⟩ := Shortest.exponentText_eq e
  have hdigits : Text.IsDigits (zeros k ++ Text.ofNat e.natAbs) :=
    (Text.isDigits_replicate_zero k).append Text.isDigit_of_mem_ofNat
  have hspan := spanDigits_append hdigits hrest
  have hne : (zeros k ++ Text.ofNat e.natAbs).isEmpty = false := by
    simp [Text.ofNat_ne_nil]
  have hvalue : Text.digitsValue (zeros k ++ Text.ofNat e.natAbs) = e.natAbs := by
    rw [Text.digitsValue_append, zeros, Text.digitsValue_replicate_zero, zero_mul, zero_add,
      Text.digitsValue_ofNat]
  rw [hk]
  split_ifs with he
  · show spanExponent (.scalar 'e' :: .scalar '-' :: (zeros k ++ Text.ofNat e.natAbs ++ rest)) = _
    rw [spanExponent, if_pos (Or.inl rfl)]
    simp only [spanExponentSign, hspan, hne, hvalue]
    simp only [Bool.false_eq_true, if_false, if_true, Prod.mk.injEq, Option.some.injEq, and_true]
    omega
  · show spanExponent (.scalar 'e' :: .scalar '+' :: (zeros k ++ Text.ofNat e.natAbs ++ rest)) = _
    rw [spanExponent, if_pos (Or.inl rfl)]
    simp only [spanExponentSign, hspan, hne, hvalue]
    simp only [Bool.false_eq_true, if_false, Prod.mk.injEq, Option.some.injEq, and_true]
    omega

/-! ## Numbers -/

/-- A text with its sign. -/
def signed (negative : Bool) (t : Text) : Text := if negative then .scalar '-' :: t else t

theorem signed_append (negative : Bool) (t rest : Text) :
    signed negative t ++ rest = signed negative (t ++ rest) := by
  cases negative <;> rfl

theorem exists_cons_of_isDigits {whole : Text} (hdigits : Text.IsDigits whole) (hne : whole ≠ []) :
    ∃ c t, whole = c :: t ∧ c.isDigit = true := by
  obtain ⟨c, t, rfl⟩ := List.exists_cons_of_ne_nil hne
  exact ⟨c, t, rfl, hdigits c List.mem_cons_self⟩

theorem spanSign_signed (negative : Bool) {t : Text} (h : t.head? ≠ some (.scalar '-')) :
    spanSign (signed negative t) = (negative, t) := by
  cases negative with
  | true => rfl
  | false =>
    rw [signed, if_neg Bool.false_ne_true]
    unfold spanSign
    split
    · exact absurd rfl h
    · rfl

theorem readNumber_of_parts (negative : Bool) {t whole a b rest : Text} {fraction : Option Text}
    {exponent : Option ℤ} (hsign : t.head? ≠ some (.scalar '-'))
    (hwhole : spanWhole t = (whole, a)) (hne : whole ≠ [])
    (hfraction : spanFraction a = (fraction, b)) (hexponent : spanExponent b = (exponent, rest)) :
    readNumber (signed negative t) = (numberOf negative whole fraction exponent).map (·, rest) := by
  have hempty : whole.isEmpty = false := by simpa using hne
  rw [readNumber, spanSign_signed negative hsign]
  simp only [hwhole, hfraction, hexponent, hempty, Bool.false_eq_true, if_false]

/-- A numeral with a point or an exponent is read as a floating-point number. -/
theorem readNumber_numeral (negative : Bool) {n : Numeral} (hn : n.IsValid)
    (hparts : n.fraction.isSome ∨ n.exponent.isSome) {rest : Text} (hrest : EndsNumber rest) :
    readNumber (signed negative n.text ++ rest) =
      .ok (.float (Binary64.ofDecimal negative (Text.digitsValue n.digits) n.unit), rest) := by
  obtain ⟨whole, fraction, exponent⟩ := n
  obtain ⟨hdigits, hne, hhead, hfraction⟩ := hn
  obtain ⟨first, _, hfirst, hdigit⟩ := exists_cons_of_isDigits hdigits hne
  have hexponentText : ∀ e : ℤ, ∃ c t, exponentText e = c :: t ∧ c = .scalar 'e' := by
    intro e
    rw [exponentText]
    split_ifs <;> exact ⟨_, _, rfl, rfl⟩
  have hexponent : spanExponent (exponent.elim [] exponentText ++ rest) = (exponent, rest) := by
    cases exponent with
    | none => exact spanExponent_of_head fun c hc => (hrest c hc).2.2
    | some e => exact spanExponent_append e hrest.endsDigits
  -- neither a digit nor a point stands behind the fraction, or in its place
  have hends : EndsDigits (exponent.elim [] exponentText ++ rest) ∧
      (exponent.elim [] exponentText ++ rest).head? ≠ some (.scalar '.') := by
    cases exponent with
    | none => exact ⟨hrest.endsDigits, fun hc => (hrest _ hc).2.1 rfl⟩
    | some e =>
      obtain ⟨c, t, ht, rfl⟩ := hexponentText e
      simp only [Option.elim_some, ht, List.cons_append]
      exact ⟨endsDigits_cons rfl _, by simp⟩
  have hspan : spanFraction (fraction.elim [] (.scalar '.' :: ·) ++
      (exponent.elim [] exponentText ++ rest)) =
      (fraction, exponent.elim [] exponentText ++ rest) := by
    cases fraction with
    | none => exact spanFraction_of_head hends.2
    | some f =>
      obtain ⟨hf, hfne⟩ := hfraction f rfl
      exact spanFraction_append hf hfne hends.1
  have hbehind : EndsDigits (fraction.elim [] (.scalar '.' :: ·) ++
      (exponent.elim [] exponentText ++ rest)) := by
    cases fraction with
    | none => exact hends.1
    | some f => exact endsDigits_cons rfl _
  have hwhole := spanWhole_append hdigits hne hhead hbehind
  have hsign : (whole ++ (fraction.elim [] (.scalar '.' :: ·) ++
      (exponent.elim [] exponentText ++ rest))).head? ≠ some (.scalar '-') := by
    rw [show whole = first :: _ from hfirst, List.cons_append, List.head?_cons, Ne, Option.some_inj]
    exact CodePoint.ne_of_isDigit hdigit rfl
  rw [signed_append, Numeral.text, List.append_assoc, List.append_assoc,
    readNumber_of_parts negative hsign hwhole hne hspan hexponent]
  rcases fraction with _ | f <;> rcases exponent with _ | e
  · exact absurd hparts (by simp)
  all_goals rfl

theorem ofInt_eq_signed (n : ℤ) : Text.ofInt n = signed (n < 0) (Text.ofNat n.natAbs) := by
  cases n with
  | ofNat n =>
    rw [Text.ofInt, signed, if_neg (by simp)]
    rfl
  | negSucc n =>
    rw [Text.ofInt, signed, if_pos (by simp)]
    rfl

theorem readNumber_ofInt {n : ℤ} (hn : (Json.int n).isPrintable = true) {rest : Text}
    (hrest : EndsNumber rest) : readNumber (Text.ofInt n ++ rest) = .ok (.int n, rest) := by
  have hlimit : (Text.ofNat n.natAbs).length ≤ digitLimit := by
    rw [Text.length_ofNat]
    simpa [isPrintable] using hn
  obtain ⟨first, _, hfirst, hdigit⟩ :=
    exists_cons_of_isDigits (Text.isDigit_of_mem_ofNat (n := n.natAbs)) (Text.ofNat_ne_nil _)
  have hhead : Text.ofNat n.natAbs = [.scalar '0'] ∨
      (Text.ofNat n.natAbs).head? ≠ some (.scalar '0') := by
    rcases Nat.eq_zero_or_pos n.natAbs with h0 | hpos
    · rw [h0]
      exact Or.inl rfl
    · exact Or.inr (Text.head?_ofNat_ne_zero hpos)
  have hwhole := spanWhole_append (Text.isDigit_of_mem_ofNat (n := n.natAbs)) (Text.ofNat_ne_nil _)
    hhead hrest.endsDigits
  have hsign : (Text.ofNat n.natAbs ++ rest).head? ≠ some (.scalar '-') := by
    rw [hfirst, List.cons_append, List.head?_cons, Ne, Option.some_inj]
    exact CodePoint.ne_of_isDigit hdigit rfl
  rw [ofInt_eq_signed, signed_append, readNumber_of_parts _ hsign hwhole (Text.ofNat_ne_nil _)
    (spanFraction_of_head fun hc => (hrest _ hc).2.1 rfl)
    (spanExponent_of_head fun c hc => (hrest c hc).2.2)]
  rw [numberOf, if_neg (Nat.not_lt.2 hlimit), Text.digitsValue_ofNat]
  dsimp only [Except.map]
  congr 3
  split_ifs with hneg
  · have := of_decide_eq_true hneg
    omega
  · have : ¬ n < 0 := fun h => hneg (decide_eq_true h)
    omega

/-- The text of a finite number is a signed numeral that denotes the number. -/
theorem exists_numeral_of_finite {negative : Bool} {significand : ℕ} {e : ℤ}
    (h : (Binary64.finite negative significand e).IsCanonical) :
    ∃ n : Numeral, Shortest.text floatNames (.finite negative significand e) = signed negative n.text ∧
      n.IsValid ∧ (n.fraction.isSome ∨ n.exponent.isSome) ∧
      Binary64.ofDecimal negative (Text.digitsValue n.digits) n.unit =
        .finite negative significand e := by
  rcases Nat.eq_zero_or_pos significand with rfl | hpos
  · have he : e = -1074 := h.2.2.2.resolve_left (by norm_num)
    subst he
    refine ⟨⟨[.scalar '0'], some [.scalar '0'], none⟩, by cases negative <;> rfl,
      ⟨Text.isDigits_replicate_zero 1, List.cons_ne_nil _ _, Or.inl rfl, ?_⟩, Or.inl rfl, rfl⟩
    rintro f ⟨⟩
    exact ⟨Text.isDigits_replicate_zero 1, List.cons_ne_nil _ _⟩
  · have hcanonical : (Binary64.finite false significand e).IsCanonical := h
    have hsignificant := Shortest.significantDigits_isSignificant
      (Shortest.ofPositive_digits_pos hpos hcanonical)
    obtain ⟨n, htext, hvalid, hparts, hvalue⟩ := Shortest.exists_numeral_of_layout hsignificant
      ((Shortest.ofPositive significand e).exponent +
        (Text.ofNat (Shortest.ofPositive significand e).digits).length)
    refine ⟨n, ?_, hvalid, hparts, ?_⟩
    · rw [Shortest.text]
      dsimp only
      rw [if_neg hpos.ne', htext]
      rfl
    · rw [Shortest.digitsValue_significantDigits] at hvalue
      have hread := Shortest.ofDecimal_ofPositive hpos hcanonical
      rw [Binary64.ofDecimal_eq_nearest, ← hvalue] at hread
      rw [Binary64.ofDecimal_eq_nearest]
      exact Binary64.nearest_negative_eq_finite hread

theorem readNumber_finite {negative : Bool} {significand : ℕ} {e : ℤ}
    (h : (Binary64.finite negative significand e).IsCanonical) {rest : Text}
    (hrest : EndsNumber rest) :
    readNumber (Shortest.text floatNames (.finite negative significand e) ++ rest) =
      .ok (.float (.finite negative significand e), rest) := by
  obtain ⟨n, htext, hvalid, hparts, hvalue⟩ := exists_numeral_of_finite h
  rw [htext, readNumber_numeral negative hvalid hparts hrest, hvalue]

/-! ## Numbers among the words -/

/-- A text that starts like a number: with a digit, or with a sign and a digit behind it. -/
def StartsNumber (t : Text) : Prop :=
  ∃ negative c rest, t = signed negative (c :: rest) ∧ c.isDigit = true

theorem readAtom_of_startsNumber {t : Text} (h : StartsNumber t) : readAtom t = readNumber t := by
  obtain ⟨negative, c, rest, rfl, hc⟩ := h
  have hdiffers : ∀ d, (CodePoint.scalar d).isDigit = false → ∀ start : Text,
      Text.dropPrefix? (.scalar d :: start) (c :: rest) = none := fun d hd start =>
    if_neg (CodePoint.ne_of_isDigit hc hd).symm
  have hwords : ∀ p ∈ words, Text.dropPrefix? p.1 (signed negative (c :: rest)) = none := by
    intro p hp
    simp only [words, List.mem_cons, List.not_mem_nil, or_false] at hp
    cases negative with
    | false =>
      rcases hp with rfl | rfl | rfl | rfl | rfl | rfl <;> exact hdiffers _ rfl _
    | true =>
      rcases hp with rfl | rfl | rfl | rfl | rfl | rfl
      case inr.inr.inr.inr.inr => exact hdiffers 'I' rfl _
      all_goals rfl
  rw [readAtom]
  split
  · next heq =>
    obtain ⟨⟨word, value⟩, hp, hword⟩ := List.exists_of_findSome?_eq_some heq
    dsimp only at hword
    rw [hwords _ hp] at hword
    exact absurd hword (by simp)
  · rfl

theorem startsNumber_signed (negative : Bool) {digits : Text} (hdigits : Text.IsDigits digits)
    (hne : digits ≠ []) (rest : Text) : StartsNumber (signed negative (digits ++ rest)) := by
  obtain ⟨c, t, rfl, hc⟩ := exists_cons_of_isDigits hdigits hne
  exact ⟨negative, c, t ++ rest, rfl, hc⟩

theorem startsNumber_ofInt (n : ℤ) (rest : Text) : StartsNumber (Text.ofInt n ++ rest) := by
  rw [ofInt_eq_signed, signed_append]
  exact startsNumber_signed _ Text.isDigit_of_mem_ofNat (Text.ofNat_ne_nil _) rest

theorem startsNumber_finite {negative : Bool} {significand : ℕ} {e : ℤ}
    (h : (Binary64.finite negative significand e).IsCanonical) (rest : Text) :
    StartsNumber (Shortest.text floatNames (.finite negative significand e) ++ rest) := by
  obtain ⟨n, htext, hvalid, -⟩ := exists_numeral_of_finite h
  rw [htext, signed_append, Numeral.text, List.append_assoc, List.append_assoc]
  exact startsNumber_signed negative hvalid.whole_isDigits hvalid.whole_ne_nil _

/-- **An integer under the digit limit reads back.** -/
theorem readAtom_ofInt {n : ℤ} (hn : (Json.int n).isPrintable = true) {rest : Text}
    (hrest : EndsNumber rest) : readAtom (Text.ofInt n ++ rest) = .ok (.int n, rest) := by
  rw [readAtom_of_startsNumber (startsNumber_ofInt n rest), readNumber_ofInt hn hrest]

/-- **A floating-point number reads back.** -/
theorem readAtom_floatText {x : Binary64} (h : x.IsCanonical) {rest : Text}
    (hrest : EndsNumber rest) :
    readAtom (Shortest.text floatNames x ++ rest) = .ok (.float x, rest) := by
  cases x with
  | nan => rfl
  | infinite negative => cases negative <;> rfl
  | finite negative significand e =>
    rw [readAtom_of_startsNumber (startsNumber_finite h rest), readNumber_finite h hrest]

end Json
end DashboardSynthesis
