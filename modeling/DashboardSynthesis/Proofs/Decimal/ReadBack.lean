import DashboardSynthesis.Decimal.Shortest
import DashboardSynthesis.Proofs.Decimal.Digits
import DashboardSynthesis.Proofs.Decimal.Nearest
import Mathlib.Data.List.TakeWhile

/-!
# Written numbers read back

`Shortest.ofPositive` gives a decimal from which reading gives the number again
(`ofDecimal_ofPositive`): where a grid has a hit that was tested, and otherwise the decimal is exact.
`Shortest.layout` only moves the point: what it writes is a numeral with parts (`Numeral`), and the
parts denote what the digits and the point denote (`exists_numeral_of_layout`).

## Parts of a numeral

A numeral has a whole part, a fraction or none, and an exponent or none.  `Numeral.Denotes` is its
value, in the form in which a reader computes it: all digits in a row, scaled by the exponent less the
places behind the point.
-/

namespace DashboardSynthesis
namespace Shortest

open Binary64 (nearest IsCanonical)

/-! ## The digits -/

theorem ofDecimal_of_hit? {x : Binary64} {num den : ℕ} {unit : ℤ} {d : Decimal}
    (h : hit? x num den unit = some d) : Binary64.ofDecimal false d.digits d.exponent = x := by
  rw [hit?] at h
  dsimp only at h
  obtain ⟨digits, hdigits, rfl⟩ := Option.map_eq_some_iff.1 h
  have := List.find?_some hdigits
  exact of_decide_eq_true this

/-- **What is written reads back.** -/
theorem ofDecimal_ofPositive {significand : ℕ} {e : ℤ} (hpos : 0 < significand)
    (h : (Binary64.finite false significand e).IsCanonical) :
    Binary64.ofDecimal false (ofPositive significand e).digits (ofPositive significand e).exponent =
      .finite false significand e := by
  rw [ofPositive]
  dsimp only
  cases hfind : (List.range 17).findSome? fun (n : ℕ) =>
      hit? (.finite false significand e) (Binary64.scaled significand e).1
        (Binary64.scaled significand e).2
        (integerPlaces (Binary64.scaled significand e).1 (Binary64.scaled significand e).2 -
          (n + 1)) with
  | some d =>
    obtain ⟨n, -, hn⟩ := List.exists_of_findSome?_eq_some hfind
    exact ofDecimal_of_hit? hn
  | none =>
    -- no grid has a hit: the exact value is written out
    have hexact := Binary64.nearest_of_isCanonical hpos h
    rw [Option.getD_none, Binary64.ofDecimal_eq_nearest, ← hexact]
    congr 1
    split_ifs with he
    · obtain ⟨n, rfl⟩ := Int.eq_ofNat_of_zero_le he
      rw [Binary64.scaled, if_pos he]
      simp
    · obtain ⟨n, hn⟩ := Int.eq_ofNat_of_zero_le (show 0 ≤ -e by omega)
      have hneg : e = -(n : ℤ) := by omega
      subst hneg
      rw [neg_neg, Int.toNat_natCast]
      have hten : (10 : ℚ) ^ n = 5 ^ n * 2 ^ n := by rw [← mul_pow]; norm_num
      simp only [Nat.pow_eq, Nat.cast_mul, Nat.cast_pow, Nat.cast_ofNat, zpow_neg, zpow_natCast]
      rw [hten]
      field_simp

theorem ofPositive_digits_pos {significand : ℕ} {e : ℤ} (hpos : 0 < significand)
    (h : (Binary64.finite false significand e).IsCanonical) :
    0 < (ofPositive significand e).digits := by
  rcases Nat.eq_zero_or_pos (ofPositive significand e).digits with h0 | hd
  · have hread := ofDecimal_ofPositive hpos h
    rw [h0, Binary64.ofDecimal, if_pos rfl, Binary64.zero, Binary64.finite.injEq] at hread
    exact absurd hread.2.1.symm hpos.ne'
  · exact hd

/-! ## Numerals -/

/-- The parts of a numeral without a sign. -/
structure Numeral where
  whole : Text
  fraction : Option Text
  exponent : Option ℤ

namespace Numeral

/-- A numeral as text. -/
def text (n : Numeral) : Text :=
  n.whole ++ (n.fraction.elim [] (.scalar '.' :: ·)) ++ (n.exponent.elim [] exponentText)

/-- All digits in a row. -/
def digits (n : Numeral) : Text := n.whole ++ n.fraction.getD []

/-- The exponent of the last digit. -/
def unit (n : Numeral) : ℤ := n.exponent.getD 0 - (n.fraction.getD []).length

/-- A whole part is a single zero, or digits that do not start with one; a fraction is not empty. -/
structure IsValid (n : Numeral) : Prop where
  whole_isDigits : Text.IsDigits n.whole
  whole_ne_nil : n.whole ≠ []
  whole_head : n.whole = [.scalar '0'] ∨ n.whole.head? ≠ some (.scalar '0')
  fraction : ∀ f ∈ n.fraction, Text.IsDigits f ∧ f ≠ []

end Numeral

/-! ## The layout -/

/-- The significant digits, with the zeros that were taken off, are all digits. -/
theorem significantDigits_append (n : ℕ) :
    ∃ k, significantDigits n ++ zeros k = Text.ofNat n := by
  have hsplit := List.takeWhile_append_dropWhile (p := fun c => decide (c = CodePoint.scalar '0'))
    (l := (Text.ofNat n).reverse)
  have hzeros : ((Text.ofNat n).reverse.takeWhile fun c => decide (c = .scalar '0')) =
      zeros ((Text.ofNat n).reverse.takeWhile fun c => decide (c = .scalar '0')).length := by
    refine List.eq_replicate_of_mem fun c hc => ?_
    have := List.mem_takeWhile_imp (p := fun c => decide (c = CodePoint.scalar '0')) hc
    exact of_decide_eq_true this
  have hrev := congrArg List.reverse hsplit
  rw [List.reverse_append, List.reverse_reverse, hzeros, zeros, List.reverse_replicate] at hrev
  exact ⟨_, hrev⟩

/-- Digits that may be laid out: there are some, and the first is not a zero. -/
structure IsSignificant (digits : Text) : Prop where
  isDigits : Text.IsDigits digits
  ne_nil : digits ≠ []
  head : digits.head? ≠ some (.scalar '0')

theorem significantDigits_isSignificant {n : ℕ} (hn : 0 < n) :
    IsSignificant (significantDigits n) := by
  obtain ⟨k, hk⟩ := significantDigits_append n
  have hne : significantDigits n ≠ [] := by
    intro hnil
    rw [hnil, List.nil_append, zeros] at hk
    have hvalue := Text.digitsValue_ofNat n
    rw [← hk, Text.digitsValue_replicate_zero] at hvalue
    exact hn.ne hvalue
  refine ⟨fun c hc => Text.isDigit_of_mem_ofNat (n := n) c ?_, hne, ?_⟩
  · rw [← hk]
    exact List.mem_append_left _ hc
  · rw [← List.head?_append_of_ne_nil _ hne, hk]
    exact Text.head?_ofNat_ne_zero hn

/-- Taking zeros off the end of a number's digits keeps its value, and so does the point. -/
theorem digitsValue_significantDigits (n : ℕ) (e : ℤ) :
    (Text.digitsValue (significantDigits n) : ℚ) *
        10 ^ (e + (Text.ofNat n).length - (significantDigits n).length) = n * 10 ^ e := by
  obtain ⟨k, hk⟩ := significantDigits_append n
  have hvalue := Text.digitsValue_ofNat n
  rw [← hk, Text.digitsValue_append, zeros, Text.digitsValue_replicate_zero, List.length_replicate,
    add_zero] at hvalue
  have hlength : ((Text.ofNat n).length : ℤ) = (significantDigits n).length + k := by
    rw [← hk, List.length_append, zeros, List.length_replicate]
    push_cast
    rfl
  have hshift : e + (Text.ofNat n).length - (significantDigits n).length = k + e := by omega
  rw [hshift, zpow_add₀ (by norm_num), zpow_natCast]
  conv_rhs => rw [← hvalue]
  push_cast
  ring

theorem exponentText_eq (e : ℤ) : ∃ k, exponentText e =
    (if e < 0 then "e-" else "e+" : Text) ++ (zeros k ++ Text.ofNat e.natAbs) := by
  rw [exponentText]
  split_ifs
  · exact ⟨1, rfl⟩
  · exact ⟨0, rfl⟩
  · exact ⟨1, rfl⟩
  · exact ⟨0, rfl⟩

/-- The numeral stands for `0.digits · 10 ^ point`, and it shows that it is not an integer. -/
structure LaysOut (n : Numeral) (digits : Text) (point : ℤ) : Prop where
  isValid : n.IsValid
  isMarked : n.fraction.isSome ∨ n.exponent.isSome
  value : (Text.digitsValue n.digits : ℚ) * 10 ^ n.unit =
    Text.digitsValue digits * 10 ^ (point - digits.length)

section Layouts

variable {digits : Text} {point : ℤ}

/-- `0.000digits` -/
theorem laysOut_below (h : IsSignificant digits) (hzero : point ≤ 0) :
    LaysOut ⟨[.scalar '0'], some (zeros (-point).toNat ++ digits), none⟩ digits point := by
  obtain ⟨hdigits, hne, -⟩ := h
  refine ⟨⟨Text.isDigits_replicate_zero 1, List.cons_ne_nil _ _, Or.inl rfl, ?_⟩, Or.inl rfl, ?_⟩
  · rintro f ⟨⟩
    exact ⟨(Text.isDigits_replicate_zero _).append hdigits, by simp [hne]⟩
  · have hunit : (0 : ℤ) - (zeros (-point).toNat ++ digits).length = point - digits.length := by
      rw [List.length_append, zeros, List.length_replicate]
      push_cast
      omega
    rw [Numeral.unit, Numeral.digits, Option.getD_none, Option.getD_some, hunit,
      Text.digitsValue_append, Text.digitsValue_append, zeros, Text.digitsValue_replicate_zero,
      show Text.digitsValue [.scalar '0'] = 0 from rfl, zero_mul, zero_mul, zero_add, zero_add]

/-- `digits000.0` -/
theorem laysOut_above (h : IsSignificant digits) (hzero : 0 < point)
    (hwhole : digits.length ≤ point.toNat) :
    LaysOut ⟨digits ++ zeros (point.toNat - digits.length), some (zeros 1), none⟩ digits point := by
  obtain ⟨hdigits, hne, hhead⟩ := h
  refine ⟨⟨hdigits.append (Text.isDigits_replicate_zero _), by simp [hne], Or.inr ?_, ?_⟩,
    Or.inl rfl, ?_⟩
  · rw [List.head?_append_of_ne_nil _ hne]
    exact hhead
  · rintro f ⟨⟩
    exact ⟨Text.isDigits_replicate_zero 1, by simp [zeros]⟩
  · have hunit : point - digits.length = ((point.toNat - digits.length : ℕ) : ℤ) := by omega
    rw [Numeral.unit, Numeral.digits, Option.getD_none, Option.getD_some, hunit,
      Text.digitsValue_append, Text.digitsValue_append]
    simp only [zeros, Text.digitsValue_replicate_zero, List.length_replicate, Nat.cast_one]
    rw [zpow_natCast, zero_sub, zpow_neg_one]
    push_cast
    ring

/-- `dig.its` -/
theorem laysOut_within (h : IsSignificant digits) (hzero : 0 < point)
    (hwhole : point.toNat < digits.length) :
    LaysOut ⟨digits.take point.toNat, some (digits.drop point.toNat), none⟩ digits point := by
  obtain ⟨hdigits, hne, hhead⟩ := h
  have htake : digits.take point.toNat ≠ [] := by
    intro hnil
    rcases List.take_eq_nil_iff.1 hnil with h0 | h0
    · omega
    · exact hne h0
  refine ⟨⟨fun c hc => hdigits c (List.mem_of_mem_take hc), htake, Or.inr ?_, ?_⟩, Or.inl rfl, ?_⟩
  · rw [List.head?_take, if_neg (by omega)]
    exact hhead
  · rintro f ⟨⟩
    refine ⟨fun c hc => hdigits c (List.mem_of_mem_drop hc), ?_⟩
    rw [Ne, List.drop_eq_nil_iff]
    omega
  · have hunit : (0 : ℤ) - (digits.drop point.toNat).length = point - digits.length := by
      rw [List.length_drop]
      omega
    rw [Numeral.unit, Numeral.digits, Option.getD_none, Option.getD_some, hunit,
      List.take_append_drop]

/-- `de+99` -/
theorem laysOut_single {d : CodePoint} (h : IsSignificant [d]) :
    LaysOut ⟨[d], none, some (point - 1)⟩ [d] point := by
  refine ⟨⟨h.isDigits, List.cons_ne_nil _ _, Or.inr h.head, by simp⟩, Or.inr rfl, ?_⟩
  simp [Numeral.unit, Numeral.digits]

/-- `d.igitse+99` -/
theorem laysOut_exponent {d d' : CodePoint} {rest : Text} (h : IsSignificant (d :: d' :: rest)) :
    LaysOut ⟨[d], some (d' :: rest), some (point - 1)⟩ (d :: d' :: rest) point := by
  obtain ⟨hdigits, -, hhead⟩ := h
  have hd : Text.IsDigits [d] := by
    intro c hc
    rw [List.mem_singleton.1 hc]
    exact hdigits d List.mem_cons_self
  refine ⟨⟨hd, List.cons_ne_nil _ _, Or.inr (by simpa using hhead), ?_⟩, Or.inl rfl, ?_⟩
  · rintro f ⟨⟩
    exact ⟨fun c hc => hdigits c (List.mem_cons_of_mem d hc), List.cons_ne_nil _ _⟩
  · have hunit : point - 1 - ((d' :: rest).length : ℤ) = point - (d :: d' :: rest).length := by
      rw [List.length_cons (a := d)]
      push_cast
      omega
    rw [Numeral.unit, Numeral.digits, Option.getD_some, Option.getD_some, hunit]
    rfl

end Layouts

/-- **The layout only moves the point.** -/
theorem exists_numeral_of_layout {digits : Text} (h : IsSignificant digits) (point : ℤ) :
    ∃ n : Numeral, layout digits point = n.text ∧ LaysOut n digits point := by
  have hpoint : ("0." : Text) = [.scalar '0', .scalar '.'] := rfl
  have hend : (".0" : Text) = [.scalar '.', .scalar '0'] := rfl
  unfold layout
  dsimp only
  split_ifs with hpos hzero hwhole
  · exact ⟨_, by simp [Numeral.text, hpoint], laysOut_below h hzero⟩
  · exact ⟨_, by simp [Numeral.text, hend, zeros], laysOut_above h (not_le.1 hzero) hwhole⟩
  · exact ⟨_, by simp [Numeral.text], laysOut_within h (not_le.1 hzero) (not_le.1 hwhole)⟩
  · obtain ⟨d, rest, rfl⟩ := List.exists_cons_of_ne_nil h.ne_nil
    rcases rest with _ | ⟨d', rest⟩
    · exact ⟨_, by simp [Numeral.text], laysOut_single h⟩
    · exact ⟨_, by simp [Numeral.text], laysOut_exponent h⟩

end Shortest
end DashboardSynthesis
