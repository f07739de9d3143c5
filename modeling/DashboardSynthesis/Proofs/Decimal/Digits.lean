import DashboardSynthesis.Text.Basic
import Mathlib.Algebra.Order.Group.Nat
import Mathlib.Algebra.Order.Ring.Nat
import Mathlib.Tactic.Ring

/-!
# Decimal notation

What `Text.ofNat` writes consists of digits (`isDigit_of_mem_ofNat`), denotes the number that was
written (`digitsValue_ofNat`), and starts with a zero for the number zero only
(`head?_ofNat_ne_zero`).  An integer has a sign besides (`notMem_ofInt`).  The value of digits behind one
another is the value of the first ones, shifted, and that of the last ones (`digitsValue_append`).
-/

namespace DashboardSynthesis

namespace CodePoint

theorem isDigit_scalar_iff {c : Char} :
    (scalar c).isDigit = true ↔ '0' ≤ c ∧ c ≤ '9' := by
  rw [isDigit, digit?]
  split_ifs with h
  · exact ⟨fun _ => h, fun _ => rfl⟩
  · exact ⟨fun hf => absurd hf (by simp), fun hc => absurd hc h⟩

theorem digit?_eq_some {c : CodePoint} (h : c.isDigit = true) : ∃ n, c.digit? = some n ∧ n ≤ 9 := by
  cases c with
  | surrogate n => exact absurd h (by simp [isDigit, digit?])
  | scalar c =>
    have hc := isDigit_scalar_iff.1 h
    refine ⟨c.toNat - '0'.toNat, if_pos hc, ?_⟩
    have h9 : c.toNat ≤ '9'.toNat := hc.2
    have hval : '9'.toNat = '0'.toNat + 9 := rfl
    omega

theorem ne_of_isDigit {c : CodePoint} {d : Char} (h : c.isDigit = true)
    (hd : (scalar d).isDigit = false) : c ≠ scalar d := by
  rintro rfl
  rw [hd] at h
  exact Bool.noConfusion h

end CodePoint

namespace Text

/-- A digit, and nothing but digits. -/
def IsDigits (t : Text) : Prop := ∀ c ∈ t, c.isDigit = true

theorem IsDigits.append {a b : Text} (ha : IsDigits a) (hb : IsDigits b) : IsDigits (a ++ b) := by
  intro c hc
  rcases List.mem_append.1 hc with h | h
  · exact ha c h
  · exact hb c h

theorem isDigits_replicate_zero (n : ℕ) : IsDigits (List.replicate n (.scalar '0')) := by
  intro c hc
  rw [List.eq_of_mem_replicate hc]
  decide

theorem isDigit_of_mem_ofNat {n : ℕ} : IsDigits (ofNat n) := by
  intro c hc
  obtain ⟨d, hd, rfl⟩ := List.mem_map.1 hc
  have hdigit : d.isDigit = true := Nat.isDigit_of_mem_toDigits (by norm_num) (by norm_num) hd
  rw [Char.isDigit, Bool.and_eq_true, decide_eq_true_eq, decide_eq_true_eq] at hdigit
  exact CodePoint.isDigit_scalar_iff.2 hdigit

theorem ofNat_ne_nil (n : ℕ) : ofNat n ≠ [] :=
  fun h => Nat.toDigits_ne_nil (List.map_eq_nil_iff.1 h)

theorem length_ofNat (n : ℕ) : (ofNat n).length = (Nat.toDigits 10 n).length := List.length_map _

/-- An integer is written with digits and a minus sign only. -/
theorem notMem_ofInt {c : CodePoint} (hdigit : c.isDigit = false) (hminus : c ≠ .scalar '-') (n : ℤ) :
    c ∉ ofInt n := by
  intro hmem
  have hdigits : c ∈ ofNat n.natAbs := by
    rcases n with n | n
    · exact hmem
    · exact (List.mem_cons.1 hmem).resolve_left hminus
  exact absurd (isDigit_of_mem_ofNat c hdigits) (by simp [hdigit])

theorem exists_isDigit_mem_ofInt (n : ℤ) : ∃ c ∈ ofInt n, c.isDigit = true := by
  obtain ⟨c, hc⟩ := List.exists_mem_of_ne_nil _ (ofNat_ne_nil n.natAbs)
  refine ⟨c, ?_, isDigit_of_mem_ofNat c hc⟩
  rcases n with n | n
  · exact hc
  · exact List.mem_cons_of_mem _ hc

/-! ## Values -/

theorem foldl_digits (digits : Text) (start : ℕ) :
    digits.foldl (fun n c => 10 * n + c.digit?.getD 0) start =
      start * 10 ^ digits.length + digitsValue digits := by
  induction digits generalizing start with
  | nil => simp [digitsValue]
  | cons c rest ih =>
    rw [digitsValue, List.foldl_cons, List.foldl_cons, ih, ih (10 * 0 + _), List.length_cons]
    ring

theorem digitsValue_append (a b : Text) :
    digitsValue (a ++ b) = digitsValue a * 10 ^ b.length + digitsValue b := by
  rw [digitsValue, List.foldl_append, foldl_digits]
  rfl

theorem digitsValue_cons (c : CodePoint) (t : Text) :
    digitsValue (c :: t) = c.digit?.getD 0 * 10 ^ t.length + digitsValue t := by
  have h := digitsValue_append [c] t
  rw [List.singleton_append] at h
  rw [h]
  simp [digitsValue]

@[simp] theorem digitsValue_replicate_zero (n : ℕ) :
    digitsValue (List.replicate n (.scalar '0')) = 0 := by
  induction n with
  | zero => rfl
  | succ n ih =>
    rw [List.replicate_succ, digitsValue_cons, ih]
    simp [CodePoint.digit?]

theorem digitsValue_lt {t : Text} (h : IsDigits t) : digitsValue t < 10 ^ t.length := by
  induction t with
  | nil => exact Nat.one_pos
  | cons c t ih =>
    obtain ⟨n, hn, hle⟩ := CodePoint.digit?_eq_some (h c List.mem_cons_self)
    have hrest := ih fun x hx => h x (List.mem_cons_of_mem c hx)
    rw [digitsValue_cons, hn, List.length_cons, pow_succ, Option.getD_some]
    calc n * 10 ^ t.length + digitsValue t < n * 10 ^ t.length + 10 ^ t.length := by omega
      _ = (n + 1) * 10 ^ t.length := by ring
      _ ≤ 10 * 10 ^ t.length := Nat.mul_le_mul_right _ (by omega)
      _ = 10 ^ t.length * 10 := Nat.mul_comm _ _

/-- The number that was written is the one that is read. -/
@[simp] theorem digitsValue_ofNat (n : ℕ) : digitsValue (ofNat n) = n := by
  have hmap : ∀ cs : List Char, (∀ c ∈ cs, c.isDigit = true) → ∀ start,
      (cs.map CodePoint.scalar).foldl (fun n c => 10 * n + c.digit?.getD 0) start =
        Nat.ofDigitChars 10 cs start := by
    intro cs
    induction cs with
    | nil => intro _ start; simp
    | cons c cs ih =>
      intro hcs start
      have hc := hcs c List.mem_cons_self
      rw [Char.isDigit, Bool.and_eq_true, decide_eq_true_eq, decide_eq_true_eq] at hc
      have hd : (CodePoint.scalar c).digit? = some (c.toNat - '0'.toNat) := if_pos hc
      rw [List.map_cons, List.foldl_cons, ih (fun x hx => hcs x (List.mem_cons_of_mem c hx)),
        Nat.ofDigitChars_cons, hd, Option.getD_some]
  rw [digitsValue, ofNat, hmap _ fun c hc =>
    Nat.isDigit_of_mem_toDigits (by norm_num) (by norm_num) hc]
  exact Nat.ofDigitChars_ten_toDigits

/-- Only the number zero is written with a zero in front. -/
theorem head?_ofNat_ne_zero {n : ℕ} (hn : 0 < n) : (ofNat n).head? ≠ some (.scalar '0') := by
  intro hhead
  obtain ⟨rest, hrest⟩ : ∃ rest, ofNat n = .scalar '0' :: rest := by
    cases h : ofNat n with
    | nil => exact absurd h (ofNat_ne_nil n)
    | cons c rest =>
      rw [h, List.head?_cons, Option.some_inj] at hhead
      exact ⟨rest, by rw [hhead]⟩
  have hdigits : IsDigits rest := fun c hc =>
    isDigit_of_mem_ofNat c (by rw [hrest]; exact List.mem_cons_of_mem _ hc)
  have hvalue : n = digitsValue rest := by
    have h := digitsValue_ofNat n
    rw [hrest, digitsValue_cons] at h
    rw [← h]
    simp [CodePoint.digit?]
  have hlength : (Nat.toDigits 10 n).length = rest.length + 1 := by
    rw [← length_ofNat, hrest, List.length_cons]
  rcases Nat.eq_zero_or_pos rest.length with h0 | hpos
  · rw [List.length_eq_zero_iff.1 h0] at hvalue
    exact hn.ne' hvalue
  · have hlt : n < 10 ^ rest.length := by
      rw [hvalue]
      exact digitsValue_lt hdigits
    have := (Nat.length_toDigits_le_iff (by norm_num) hpos).2 hlt
    omega

end Text
end DashboardSynthesis
