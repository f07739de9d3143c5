import DashboardSynthesis.Decimal.Binary64
import Mathlib.Algebra.Order.Floor.Semifield
import Mathlib.Data.Int.Log
import Mathlib.Data.Rat.Floor
import Mathlib.Tactic.FieldSimp
import Mathlib.Tactic.Linarith
import Mathlib.Tactic.NormNum
import Mathlib.Tactic.Positivity
import Mathlib.Tactic.Ring

/-!
# Rounding to the nearest number

`Binary64.ofRatio` and `Binary64.ofDecimal` work on numerators, denominators and powers of ten.  What
they compute depends only on the rational number that these denote, and this module says so: both are
`Binary64.nearest` of that rational (`ofRatio_eq_nearest`, `ofDecimal_eq_nearest`).

## Why through the rationals

A text may spell one number in many ways: the digits may be shifted against the exponent, and zeros may
follow them.  Two spellings give different arguments to `ofDecimal`, and the size estimate inside
`ofRatio` comes out differently for them.  On the rationals there is nothing to compare.  The shortcuts
of `ofDecimal` for very large and very small magnitudes disappear as well: they give what rounding
gives.

## Canonical numbers

`IsCanonical` describes the finite numbers as they come out of rounding: a significand of 53 bits, or
fewer bits at the least exponent.  Rounding gives only such numbers (`nearest_isCanonical`), and leaves
them as they are (`nearest_of_isCanonical`).
-/

namespace DashboardSynthesis
namespace Binary64

/-! ## Rounding on the rationals -/

/-- The nearest integer, a tie to the even one. -/
def roundEven (q : ℚ) : ℕ :=
  if q - ⌊q⌋₊ < 1 / 2 then ⌊q⌋₊
  else if 1 / 2 < q - ⌊q⌋₊ then ⌊q⌋₊ + 1
  else if ⌊q⌋₊ % 2 = 0 then ⌊q⌋₊ else ⌊q⌋₊ + 1

/-- The exponent of the grid on which a positive number is rounded. -/
def gridExponent (q : ℚ) : ℤ := max (Int.log 2 q - 52) (-1074)

/-- The number at a place of the grid; what is too large is infinite. -/
def ofGrid (negative : Bool) (significand : ℕ) (exponent : ℤ) : Binary64 :=
  let (significand, exponent) :=
    if significand = Nat.pow 2 53 then (Nat.pow 2 52, exponent + 1) else (significand, exponent)
  if 971 < exponent then .infinite negative else .finite negative significand exponent

/-- The number nearest to `± q`, for `q` that is not negative. -/
def nearest (negative : Bool) (q : ℚ) : Binary64 :=
  if q = 0 then zero negative
  else ofGrid negative (roundEven (q / 2 ^ gridExponent q)) (gridExponent q)

@[simp] theorem nearest_zero (negative : Bool) : nearest negative 0 = zero negative := by
  rw [nearest, if_pos rfl]

theorem roundDiv_eq_roundEven {num den : ℕ} (hden : 0 < den) :
    roundDiv num den = roundEven (num / den) := by
  have hd : (0 : ℚ) < den := by exact_mod_cast hden
  have hfloor : ⌊(num : ℚ) / den⌋₊ = num / den := Nat.floor_div_eq_div num den
  have hrest : (num : ℚ) / den - (num / den : ℕ) = ((num % den : ℕ) : ℚ) / den := by
    have h : (num : ℚ) = (den : ℚ) * (num / den : ℕ) + (num % den : ℕ) := by
      exact_mod_cast (Nat.div_add_mod num den).symm
    rw [eq_div_iff hd.ne', sub_mul, div_mul_cancel₀ _ hd.ne']
    linarith
  have hlow : ((num % den : ℕ) : ℚ) / den < 1 / 2 ↔ 2 * (num % den) < den := by
    rw [div_lt_div_iff₀ hd two_pos]
    constructor
    · intro h
      have h' : ((num % den * 2 : ℕ) : ℚ) < (1 * den : ℕ) := by exact_mod_cast h
      have := Nat.cast_lt.1 h'
      omega
    · intro h
      have h' : ((num % den * 2 : ℕ) : ℚ) < (1 * den : ℕ) := Nat.cast_lt.2 (by omega)
      exact_mod_cast h'
  have hhigh : 1 / 2 < ((num % den : ℕ) : ℚ) / den ↔ den < 2 * (num % den) := by
    rw [div_lt_div_iff₀ two_pos hd]
    constructor
    · intro h
      have h' : ((1 * den : ℕ) : ℚ) < (num % den * 2 : ℕ) := by exact_mod_cast h
      have := Nat.cast_lt.1 h'
      omega
    · intro h
      have h' : ((1 * den : ℕ) : ℚ) < (num % den * 2 : ℕ) := Nat.cast_lt.2 (by omega)
      exact_mod_cast h'
  rw [roundDiv, roundEven, hfloor, hrest]
  simp only [hlow, hhigh]

theorem roundEven_natCast (n : ℕ) : roundEven n = n := by
  rw [roundEven, Nat.floor_natCast, sub_self, if_pos (by norm_num)]

theorem roundEven_le {q : ℚ} {n : ℕ} (h : q < n) : roundEven q ≤ n := by
  have hfloor : ⌊q⌋₊ < n ∨ q < 0 := by
    rcases lt_or_ge q 0 with hq | hq
    · exact Or.inr hq
    · exact Or.inl ((Nat.floor_lt hq).2 h)
  rcases hfloor with hfloor | hq
  · rw [roundEven]
    split_ifs <;> omega
  · have hz : ⌊q⌋₊ = 0 := Nat.floor_of_nonpos hq.le
    rw [roundEven, hz, Nat.cast_zero, sub_zero, if_pos (by linarith)]
    exact Nat.zero_le n

theorem le_roundEven {q : ℚ} {n : ℕ} (h : (n : ℚ) ≤ q) : n ≤ roundEven q := by
  have hfloor : n ≤ ⌊q⌋₊ := Nat.le_floor h
  rw [roundEven]
  split_ifs <;> omega

theorem roundEven_of_lt_half {q : ℚ} (h : q < 1 / 2) : roundEven q = 0 := by
  have hz : ⌊q⌋₊ = 0 := Nat.floor_eq_zero.2 (by linarith)
  rw [roundEven, hz, Nat.cast_zero, sub_zero, if_pos h]

/-! ## Quotients of natural numbers -/

theorem scaled_snd_pos (num : ℕ) (e : ℤ) : 0 < (scaled num e).2 := by
  rw [scaled]
  split_ifs
  · exact Nat.one_pos
  · exact Nat.pow_pos two_pos

theorem scaled_div (num : ℕ) (e : ℤ) :
    ((scaled num e).1 : ℚ) / (scaled num e).2 = num * 2 ^ e := by
  rw [scaled]
  split_ifs with h
  · obtain ⟨n, rfl⟩ := Int.eq_ofNat_of_zero_le h
    simp
  · obtain ⟨n, hn⟩ := Int.eq_ofNat_of_zero_le (show 0 ≤ -e by omega)
    have he : e = -(n : ℤ) := by omega
    subst he
    simp [div_eq_mul_inv]

theorem scaled_fst_pos {num : ℕ} (h : 0 < num) (e : ℤ) : 0 < (scaled num e).1 := by
  rw [scaled]
  split_ifs
  · exact Nat.mul_pos h (Nat.pow_pos two_pos)
  · exact h

/-- The binary logarithm of a quotient, up to one. -/
theorem log_div_bounds {num den : ℕ} (hnum : 0 < num) (hden : 0 < den) :
    (num.log2 : ℤ) - den.log2 - 1 ≤ Int.log 2 ((num : ℚ) / den) ∧
      Int.log 2 ((num : ℚ) / den) ≤ (num.log2 : ℤ) - den.log2 := by
  have hn : (0 : ℚ) < num := by exact_mod_cast hnum
  have hd : (0 : ℚ) < den := by exact_mod_cast hden
  have hq : (0 : ℚ) < num / den := div_pos hn hd
  have hn1 : ((2 : ℚ) ^ num.log2) ≤ num := by exact_mod_cast Nat.log2_self_le hnum.ne'
  have hn2 : (num : ℚ) < 2 ^ (num.log2 + 1) := by exact_mod_cast Nat.lt_log2_self
  have hd1 : ((2 : ℚ) ^ den.log2) ≤ den := by exact_mod_cast Nat.log2_self_le hden.ne'
  have hd2 : (den : ℚ) < 2 ^ (den.log2 + 1) := by exact_mod_cast Nat.lt_log2_self
  constructor
  · refine (Int.zpow_le_iff_le_log one_lt_two hq).1 ?_
    have hz : ((2 : ℕ) : ℚ) ^ ((num.log2 : ℤ) - den.log2 - 1) =
        2 ^ num.log2 / 2 ^ (den.log2 + 1) := by
      rw [sub_sub, zpow_sub₀ (by norm_num)]
      norm_cast
    rw [hz]
    exact div_le_div₀ hn.le hn1 hd hd2.le
  · have hlt : Int.log 2 ((num : ℚ) / den) < (num.log2 : ℤ) - den.log2 + 1 := by
      refine (Int.lt_zpow_iff_log_lt one_lt_two hq).1 ?_
      have hz : ((2 : ℕ) : ℚ) ^ ((num.log2 : ℤ) - den.log2 + 1) =
          2 ^ (num.log2 + 1) / 2 ^ den.log2 := by
        rw [sub_add_eq_add_sub, zpow_sub₀ (by norm_num)]
        norm_cast
      rw [hz, div_lt_div_iff₀ hd (by positivity)]
      calc (num : ℚ) * 2 ^ den.log2 ≤ num * den := mul_le_mul_of_nonneg_left hd1 hn.le
        _ < 2 ^ (num.log2 + 1) * den := mul_lt_mul_of_pos_right hn2 hd
    omega

/-! ## What the operations compute -/

/-- **Rounding a quotient.**  The outcome depends on the quotient as a rational number only. -/
theorem ofRatio_eq_nearest (negative : Bool) (num : ℕ) {den : ℕ} (hden : 0 < den) :
    ofRatio negative num den = nearest negative (num / den) := by
  rcases Nat.eq_zero_or_pos num with rfl | hnum
  · rw [ofRatio, if_pos rfl, Nat.cast_zero, zero_div, nearest_zero]
  have hn : (0 : ℚ) < num := by exact_mod_cast hnum
  have hd : (0 : ℚ) < den := by exact_mod_cast hden
  have hq : (0 : ℚ) < num / den := div_pos hn hd
  obtain ⟨hlog1, hlog2⟩ := log_div_bounds hnum hden
  rw [ofRatio, if_neg hnum.ne', nearest, if_neg hq.ne']
  dsimp only
  set low : ℤ := max ((num.log2 : ℤ) - den.log2 - 53) (-1074) with hlow
  set divisor : ℕ := (scaled 1 low).1 * den with hdivisor
  set dividend : ℕ := num * (scaled 1 low).2 with hdividend
  have hpos : 0 < divisor := Nat.mul_pos (scaled_fst_pos Nat.one_pos low) hden
  have hposq : (0 : ℚ) < divisor := by exact_mod_cast hpos
  have hquot : (dividend : ℚ) / divisor = num / den / 2 ^ low := by
    have h := scaled_div 1 low
    have h2 : ((scaled 1 low).2 : ℚ) ≠ 0 := by exact_mod_cast (scaled_snd_pos 1 low).ne'
    rw [Nat.cast_one, one_mul] at h
    rw [hdivisor, hdividend, ← h]
    push_cast
    field_simp
  -- the size estimate is one too small exactly if the quotient reaches the next power of two
  have hstep : Nat.pow 2 53 * divisor ≤ dividend ↔ low + 53 ≤ Int.log 2 ((num : ℚ) / den) := by
    rw [← Int.zpow_le_iff_le_log one_lt_two hq]
    have hz : ((2 : ℕ) : ℚ) ^ (low + 53) = 2 ^ 53 * 2 ^ low := by
      rw [zpow_add₀ (by norm_num), mul_comm]
      norm_cast
    rw [hz, ← le_div_iff₀ (zpow_pos two_pos low), ← hquot, le_div_iff₀ hposq]
    exact_mod_cast Iff.rfl
  have hgrid : (if Nat.pow 2 53 * divisor ≤ dividend then (low + 1, 2 * divisor)
      else (low, divisor)).1 = gridExponent (num / den) := by
    rw [gridExponent]
    split_ifs with h
    · have := hstep.1 h
      simp only
      omega
    · have := mt hstep.2 h
      simp only
      omega
  have hround : roundDiv dividend (if Nat.pow 2 53 * divisor ≤ dividend then (low + 1, 2 * divisor)
      else (low, divisor)).2 = roundEven (num / den / 2 ^ gridExponent (num / den)) := by
    rw [← hgrid]
    split_ifs with h
    · rw [roundDiv_eq_roundEven (by omega)]
      congr 1
      rw [zpow_add₀ (by norm_num), zpow_one, ← div_div, ← hquot]
      push_cast
      rw [mul_comm, div_div]
    · rw [roundDiv_eq_roundEven hpos, hquot]
  rw [hround, hgrid]
  rfl

/-- A number that is at least `2 ^ 1079` is infinite. -/
theorem nearest_of_large (negative : Bool) {q : ℚ} (h : (2 : ℚ) ^ (1079 : ℤ) ≤ q) :
    nearest negative q = .infinite negative := by
  have hq : 0 < q := lt_of_lt_of_le (zpow_pos two_pos _) h
  have hlog : 1079 ≤ Int.log 2 q := (Int.zpow_le_iff_le_log one_lt_two hq).1 h
  rw [nearest, if_neg hq.ne', ofGrid]
  have hgrid : 971 < gridExponent q := by rw [gridExponent]; omega
  dsimp only
  split_ifs with _ hlarge
  · rfl
  · exact absurd (show 971 < gridExponent q + 1 by omega) hlarge
  · rfl

/-- A number below `2 ^ (-1079)` is zero. -/
theorem nearest_of_small (negative : Bool) {q : ℚ} (h0 : 0 < q) (h : q < (2 : ℚ) ^ (-1079 : ℤ)) :
    nearest negative q = zero negative := by
  have hlog : Int.log 2 q < -1079 := (Int.lt_zpow_iff_log_lt one_lt_two h0).1 h
  have hgrid : gridExponent q = -1074 := by rw [gridExponent]; omega
  have hhalf : q / 2 ^ (-1074 : ℤ) < 1 / 2 := by
    rw [div_lt_iff₀ (zpow_pos two_pos _)]
    calc q < (2 : ℚ) ^ (-1079 : ℤ) := h
      _ ≤ 2 ^ (-1 + -1074 : ℤ) := zpow_le_zpow_right₀ one_le_two (by norm_num)
      _ = 1 / 2 * 2 ^ (-1074 : ℤ) := by
        rw [zpow_add₀ two_ne_zero, zpow_neg_one, one_div]
  rw [nearest, if_neg h0.ne', hgrid, roundEven_of_lt_half hhalf]
  rfl

/-- The scales on which the shortcuts of `ofDecimal` are compared. -/
theorem two_pow_le_ten_pow : (2 : ℚ) ^ (1079 : ℤ) ≤ 10 ^ (400 : ℤ) := by
  calc (2 : ℚ) ^ (1079 : ℤ) = (2 ^ 13) ^ 83 := by rw [← pow_mul]; rfl
    _ ≤ (10 ^ 4) ^ 83 := pow_le_pow_left₀ (by norm_num) (by norm_num) 83
    _ = 10 ^ (332 : ℤ) := by rw [← pow_mul]; rfl
    _ ≤ 10 ^ (400 : ℤ) := zpow_le_zpow_right₀ (by norm_num) (by norm_num)

/-- The places of a decimal bound its magnitude. -/
theorem decimal_bounds {digits : ℕ} (hdigits : 0 < digits) (e : ℤ) :
    (10 : ℚ) ^ ((Nat.toDigits 10 digits).length + e - 1) ≤ digits * 10 ^ e ∧
      digits * 10 ^ e < (10 : ℚ) ^ ((Nat.toDigits 10 digits).length + e) := by
  set n : ℕ := (Nat.toDigits 10 digits).length with hn
  have hpos : 0 < n := Nat.length_toDigits_pos
  have hlt : digits < 10 ^ n := (Nat.length_toDigits_le_iff (by norm_num) hpos).1 le_rfl
  have hle : 10 ^ (n - 1) ≤ digits := by
    rcases Nat.eq_zero_or_pos (n - 1) with h0 | h1
    · rw [h0, pow_zero]
      exact hdigits
    · by_contra hcon
      have := (Nat.length_toDigits_le_iff (by norm_num) h1).2 (not_le.1 hcon)
      omega
  have hten : (0 : ℚ) < 10 ^ e := zpow_pos (by norm_num) e
  constructor
  · have hsplit : (10 : ℚ) ^ ((n : ℤ) + e - 1) = 10 ^ (n - 1) * 10 ^ e := by
      rw [← zpow_natCast, ← zpow_add₀ (by norm_num)]
      congr 1
      omega
    rw [hsplit]
    exact mul_le_mul_of_nonneg_right (by exact_mod_cast hle) hten.le
  · rw [zpow_add₀ (by norm_num), zpow_natCast]
    exact mul_lt_mul_of_pos_right (by exact_mod_cast hlt) hten

/-- **Rounding a decimal.**  The outcome depends on the number that the decimal denotes only; the
shortcuts for very large and very small numbers agree with it. -/
theorem ofDecimal_eq_nearest (negative : Bool) (digits : ℕ) (e : ℤ) :
    ofDecimal negative digits e = nearest negative (digits * 10 ^ e) := by
  rcases Nat.eq_zero_or_pos digits with rfl | hdigits
  · rw [ofDecimal, if_pos rfl, Nat.cast_zero, zero_mul, nearest_zero]
  obtain ⟨hlow, hhigh⟩ := decimal_bounds hdigits e
  have hpos : (0 : ℚ) < digits * 10 ^ e :=
    mul_pos (by exact_mod_cast hdigits) (zpow_pos (by norm_num) e)
  rw [ofDecimal, if_neg hdigits.ne']
  dsimp only
  split_ifs with hlarge hsmall hexp
  · refine (nearest_of_large negative (le_trans ?_ hlow)).symm
    exact two_pow_le_ten_pow.trans (zpow_le_zpow_right₀ (by norm_num) (by omega))
  · refine (nearest_of_small negative hpos (lt_of_lt_of_le hhigh ?_)).symm
    calc (10 : ℚ) ^ ((Nat.toDigits 10 digits).length + e) ≤ 10 ^ (-400 : ℤ) :=
          zpow_le_zpow_right₀ (by norm_num) (by omega)
      _ ≤ 2 ^ (-1079 : ℤ) := by
        rw [zpow_neg, zpow_neg]
        exact inv_anti₀ (zpow_pos two_pos _) two_pow_le_ten_pow
  · obtain ⟨n, rfl⟩ := Int.eq_ofNat_of_zero_le hexp
    rw [ofRatio_eq_nearest negative _ Nat.one_pos]
    simp
  · obtain ⟨n, hn⟩ := Int.eq_ofNat_of_zero_le (show 0 ≤ -e by omega)
    have he : e = -(n : ℤ) := by omega
    subst he
    rw [neg_neg, Int.toNat_natCast]
    show ofRatio negative digits (10 ^ n) = _
    rw [ofRatio_eq_nearest negative _ (Nat.pow_pos (by norm_num))]
    simp [div_eq_mul_inv]

/-! ## Canonical numbers -/

/-- The finite numbers as rounding gives them. -/
def IsCanonical : Binary64 → Prop
  | nan | infinite _ => True
  | finite _ significand e =>
    significand < 2 ^ 53 ∧ -1074 ≤ e ∧ e ≤ 971 ∧ (2 ^ 52 ≤ significand ∨ e = -1074)

theorem ofGrid_isCanonical (negative : Bool) {significand : ℕ} {e : ℤ} (h1 : significand ≤ 2 ^ 53)
    (h2 : -1074 ≤ e) (h3 : 2 ^ 52 ≤ significand ∨ e = -1074) :
    (ofGrid negative significand e).IsCanonical := by
  rw [ofGrid]
  dsimp only
  split_ifs with hm he he
  · trivial
  · refine ⟨by norm_num, by omega, by omega, Or.inl le_rfl⟩
  · trivial
  · exact ⟨lt_of_le_of_ne h1 hm, h2, by omega, h3⟩

/-- Rounding gives canonical numbers. -/
theorem nearest_isCanonical (negative : Bool) {q : ℚ} (h : 0 ≤ q) :
    (nearest negative q).IsCanonical := by
  rcases h.eq_or_lt with rfl | hq
  · rw [nearest_zero]
    exact ⟨by norm_num, le_rfl, by norm_num, Or.inr rfl⟩
  rw [nearest, if_neg hq.ne']
  have hpow : (0 : ℚ) < 2 ^ gridExponent q := zpow_pos two_pos _
  refine ofGrid_isCanonical negative (roundEven_le ?_) (le_max_right _ _) ?_
  · rw [div_lt_iff₀ hpow]
    have hlt := Int.lt_zpow_succ_log_self one_lt_two q
    calc q < ((2 : ℕ) : ℚ) ^ (Int.log 2 q + 1) := hlt
      _ ≤ 2 ^ (53 + gridExponent q) := by
        rw [Nat.cast_two]
        exact zpow_le_zpow_right₀ (by norm_num) (by rw [gridExponent]; omega)
      _ = ((2 ^ 53 : ℕ) : ℚ) * 2 ^ gridExponent q := by
        rw [zpow_add₀ two_ne_zero]
        norm_num
  · rcases le_total (-1074) (Int.log 2 q - 52) with hlog | hlog
    · left
      refine le_roundEven ?_
      rw [le_div_iff₀ hpow]
      calc ((2 ^ 52 : ℕ) : ℚ) * 2 ^ gridExponent q = 2 ^ (52 + gridExponent q) := by
            rw [zpow_add₀ two_ne_zero]
            norm_num
        _ = ((2 : ℕ) : ℚ) ^ Int.log 2 q := by
          rw [Nat.cast_two, gridExponent, max_eq_left hlog]
          congr 1
          omega
        _ ≤ q := Int.zpow_log_le_self one_lt_two hq
    · exact Or.inr (max_eq_right hlog)

/-- A canonical number is the nearest one to itself. -/
theorem nearest_of_isCanonical {negative : Bool} {significand : ℕ} {e : ℤ}
    (hpos : 0 < significand) (h : (finite negative significand e).IsCanonical) :
    nearest negative (significand * 2 ^ e) = finite negative significand e := by
  obtain ⟨hlt, hlow, hhigh, hnormal⟩ := h
  have hs : (0 : ℚ) < significand := by exact_mod_cast hpos
  have hpow : (0 : ℚ) < 2 ^ e := zpow_pos two_pos e
  have hq : (0 : ℚ) < significand * 2 ^ e := mul_pos hs hpow
  have hlog : Int.log 2 ((significand : ℚ) * 2 ^ e) < 53 + e := by
    refine (Int.lt_zpow_iff_log_lt one_lt_two hq).1 ?_
    rw [Nat.cast_two, zpow_add₀ two_ne_zero]
    exact mul_lt_mul_of_pos_right (by exact_mod_cast hlt) hpow
  have hgrid : gridExponent ((significand : ℚ) * 2 ^ e) = e := by
    rw [gridExponent]
    rcases hnormal with hn | rfl
    · have : 52 + e ≤ Int.log 2 ((significand : ℚ) * 2 ^ e) := by
        refine (Int.zpow_le_iff_le_log one_lt_two hq).1 ?_
        rw [Nat.cast_two, zpow_add₀ two_ne_zero]
        exact mul_le_mul_of_nonneg_right (by exact_mod_cast hn) hpow.le
      omega
    · omega
  rw [nearest, if_neg hq.ne', hgrid, mul_div_assoc, div_self hpow.ne', mul_one, roundEven_natCast,
    ofGrid]
  have hne : significand ≠ Nat.pow 2 53 := hlt.ne
  simp only [if_neg hne, if_neg (not_lt.2 hhigh)]

theorem ofDecimal_isCanonical (negative : Bool) (digits : ℕ) (e : ℤ) :
    (ofDecimal negative digits e).IsCanonical := by
  rw [ofDecimal_eq_nearest]
  exact nearest_isCanonical negative (mul_nonneg (Nat.cast_nonneg _) (zpow_nonneg (by norm_num) e))

/-- The sign of a decimal is that of the outcome. -/
theorem nearest_negative_eq_finite {negative other : Bool} {q : ℚ} {significand : ℕ} {e : ℤ}
    (h : nearest negative q = finite negative significand e) :
    nearest other q = finite other significand e := by
  rw [nearest] at h ⊢
  split_ifs at h ⊢ with hq
  · simp only [zero, finite.injEq] at h ⊢
    exact ⟨trivial, h.2⟩
  · rw [ofGrid] at h ⊢
    dsimp only at h ⊢
    split_ifs at h ⊢
    all_goals
      obtain ⟨-, h1, h2⟩ := finite.inj h
      rw [h1, h2]

end Binary64
end DashboardSynthesis
