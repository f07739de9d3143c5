import DashboardSynthesis.Json.Reader
import DashboardSynthesis.Proofs.Outcome
import Mathlib.Algebra.Order.Group.Nat
import Mathlib.Data.Nat.Notation
import Mathlib.Tactic.SplitIfs

/-!
# What stands between the quotes of a string

A string that is read comes from a stretch of the text between two quotes.  `Encodes raw s` says what
is known of the stretch `raw` and the text `s` it stands for: `raw` holds no control characters, so it
lies on one line, and no quote but behind a backslash; without backslashes it is `s` itself.

## Weights

Quotes, backslashes and control characters cannot stand in a string as they are, so each of them takes
at least two code points of `raw`.  `weight` counts them twice and everything else once, and the weight
of `s` is at most the length of `raw` (`Encodes.weight_le`).  This bounds from below the room that a
text takes up in a document, whatever escapes it is written with.
-/

namespace DashboardSynthesis

namespace CodePoint

/-- Quotes, backslashes and control characters have to be escaped in a string. -/
def IsSpecial (c : CodePoint) : Prop := c = .scalar '"' ∨ c = .scalar '\\' ∨ c.value < 0x20

instance (c : CodePoint) : Decidable c.IsSpecial := by
  unfold IsSpecial
  infer_instance

/-- How many code points are needed at least to write this one in a string. -/
def weight (c : CodePoint) : ℕ := if c.IsSpecial then 2 else 1

theorem weight_le_two (c : CodePoint) : c.weight ≤ 2 := by
  rw [weight]
  split_ifs <;> omega

theorem one_le_weight (c : CodePoint) : 1 ≤ c.weight := by
  rw [weight]
  split_ifs <;> omega

end CodePoint

namespace Text

/-- The sum of the weights of the code points. -/
def weight : Text → ℕ
  | [] => 0
  | c :: t => c.weight + weight t

@[simp] theorem weight_nil : weight [] = 0 := rfl

@[simp] theorem weight_cons (c : CodePoint) (t : Text) : weight (c :: t) = c.weight + t.weight := rfl

@[simp] theorem weight_append (a b : Text) : weight (a ++ b) = a.weight + b.weight := by
  induction a with
  | nil => exact (Nat.zero_add _).symm
  | cons c a ih => rw [List.cons_append, weight_cons, weight_cons, ih, Nat.add_assoc]

theorem length_le_weight (t : Text) : t.length ≤ t.weight := by
  induction t with
  | nil => exact le_rfl
  | cons c t ih =>
    have := c.one_le_weight
    rw [List.length_cons, weight_cons]
    omega

/-- No code point has to be escaped. -/
def IsPlain (t : Text) : Prop := ∀ c ∈ t, ¬ c.IsSpecial

instance (t : Text) : Decidable t.IsPlain := inferInstanceAs (Decidable (∀ c ∈ t, ¬ c.IsSpecial))

/-- A text that weighs no more than its length is plain. -/
theorem isPlain_of_weight_le {t : Text} (h : t.weight ≤ t.length) : t.IsPlain := by
  induction t with
  | nil => exact fun c hc => absurd hc List.not_mem_nil
  | cons c t ih =>
    have hone := c.one_le_weight
    have hrest := length_le_weight t
    rw [List.length_cons, weight_cons] at h
    intro d hd
    rcases List.mem_cons.1 hd with rfl | hd
    · intro hspecial
      rw [CodePoint.weight, if_pos hspecial] at h
      omega
    · exact ih (by omega) d hd

end Text

namespace Json

/-- Control characters do not occur, and quotes only behind a backslash. -/
structure IsBody (raw : Text) : Prop where
  controls : ∀ c ∈ raw, 0x20 ≤ c.value
  quotes : ∀ p q, raw = p ++ .scalar '"' :: q → p.getLast? = some (.scalar '\\')

theorem isBody_nil : IsBody [] :=
  ⟨fun _ hc => absurd hc List.not_mem_nil, fun p q h => by simp at h⟩

theorem isBody_cons {c : CodePoint} (hc : c ≠ .scalar '"') (hcontrol : 0x20 ≤ c.value) {raw : Text}
    (h : IsBody raw) : IsBody (c :: raw) := by
  refine ⟨List.forall_mem_cons.2 ⟨hcontrol, h.controls⟩, ?_⟩
  intro p q heq
  rcases p with _ | ⟨d, p⟩
  · exact absurd (List.cons.inj heq).1 hc
  · have hlast := h.quotes p q (List.cons.inj heq).2
    rcases p with _ | ⟨d', p⟩
    · exact absurd hlast (by simp)
    · rw [List.getLast?_cons_cons]
      exact hlast

/-- Behind a backslash even a quote may stand. -/
theorem isBody_escape {e : CodePoint} (he : 0x20 ≤ e.value) {raw : Text} (h : IsBody raw) :
    IsBody (.scalar '\\' :: e :: raw) := by
  refine ⟨List.forall_mem_cons.2 ⟨by decide, List.forall_mem_cons.2 ⟨he, h.controls⟩⟩, ?_⟩
  intro p q heq
  rcases p with _ | ⟨d, p⟩
  · exact absurd (List.cons.inj heq).1 (by decide)
  · obtain ⟨rfl, hrest⟩ := List.cons.inj heq
    rcases p with _ | ⟨d', p⟩
    · rfl
    · have hlast := h.quotes p q (List.cons.inj hrest).2
      rcases p with _ | ⟨d'', p⟩
      · exact absurd hlast (by simp)
      · rw [List.getLast?_cons_cons, List.getLast?_cons_cons]
        exact hlast

/-- The stretch `raw` between the quotes of a string stands for `s`. -/
structure Encodes (raw s : Text) : Prop where
  isBody : IsBody raw
  weight_le : s.weight ≤ raw.length
  eq_of_plain : .scalar '\\' ∉ raw → s = raw

/-! ## Units -/

/-- The least room that a unit takes. -/
def StringUnit.weight : StringUnit → ℕ
  | .plain c => c.weight
  | .unit _ => 2

/-- The least room that units take. -/
def unitsWeight : List StringUnit → ℕ
  | [] => 0
  | u :: us => u.weight + unitsWeight us

theorem weight_toList_le (c : Option CodePoint) : Text.weight c.toList ≤ 2 := by
  cases c with
  | none => exact Nat.zero_le 2
  | some c => simpa using c.weight_le_two

theorem weight_joinUnits_le (units : List StringUnit) :
    (joinUnits units).weight ≤ unitsWeight units := by
  fun_induction joinUnits units with
  | case1 => exact le_rfl
  | case2 c rest ih =>
    simp only [Text.weight_cons, unitsWeight, StringUnit.weight]
    omega
  | case3 high low rest h ih =>
    have := weight_toList_le (CodePoint.ofNat? (0x10000 + (high - 0xD800) * 0x400 + (low - 0xDC00)))
    simp only [Text.weight_append, unitsWeight, StringUnit.weight]
    omega
  | case4 high low rest h ih =>
    have := weight_toList_le (CodePoint.ofNat? high)
    simp only [Text.weight_append, unitsWeight, StringUnit.weight] at ih ⊢
    omega
  | case5 n rest h ih =>
    have := weight_toList_le (CodePoint.ofNat? n)
    simp only [Text.weight_append, unitsWeight, StringUnit.weight]
    omega

theorem joinUnits_map_plain (t : Text) : joinUnits (t.map .plain) = t := by
  induction t with
  | nil => rfl
  | cons c t ih => rw [List.map_cons, joinUnits, ih]

theorem hexDigit?_range {c : CodePoint} {n : ℕ} (h : c.hexDigit? = some n) : 0x30 ≤ c.value := by
  cases c with
  | surrogate m => exact absurd h (by simp [CodePoint.hexDigit?])
  | scalar c =>
    rw [CodePoint.hexDigit?] at h
    show 0x30 ≤ c.toNat
    split_ifs at h with h1 h2 h3
    · exact h1.1
    · exact le_trans (by decide) (show 'a'.toNat ≤ c.toNat from h2.1)
    · exact le_trans (by decide) (show 'A'.toNat ≤ c.toNat from h3.1)

theorem shortEscape?_range {e p : CodePoint} (h : shortEscape? e = some p) : 0x20 ≤ e.value := by
  unfold shortEscape? at h
  split at h
  case h_9 => exact absurd h (by simp)
  all_goals decide

theorem isBody_cons_of_range {c : CodePoint} (hc : 0x30 ≤ c.value) {raw : Text} (h : IsBody raw) :
    IsBody (c :: raw) := by
  refine isBody_cons ?_ (by omega) h
  rintro rfl
  exact absurd hc (by decide)

/-- What a run of `stringUnits` says of the text it consumed. -/
structure UnitsFrom (raw : Text) (units : List StringUnit) : Prop where
  isBody : IsBody raw
  weight_le : unitsWeight units ≤ raw.length
  eq_of_plain : .scalar '\\' ∉ raw → units = raw.map .plain

theorem unitsFrom_of_stringUnits {opening : ℕ} {t rest : Text} {units : List StringUnit}
    (h : stringUnits opening t = .ok (units, rest)) :
    ∃ raw, t = raw ++ .scalar '"' :: rest ∧ UnitsFrom raw units := by
  fun_induction stringUnits opening t generalizing units rest
  case case2 t =>
    obtain ⟨rfl, rfl⟩ := Prod.mk.inj (Except.ok.inj h)
    exact ⟨[], rfl, isBody_nil, le_rfl, fun _ => rfl⟩
  case case5 a b c d e t n hdigits _ ih =>
    obtain ⟨⟨us, after⟩, hread, heq⟩ := exists_of_bind_eq_ok h
    obtain ⟨rfl, rfl⟩ := Prod.mk.inj (Except.ok.inj heq)
    obtain ⟨raw, htext, hbody, hweight, -⟩ := ih hread
    have hrange : 0x30 ≤ a.value ∧ 0x30 ≤ b.value ∧ 0x30 ≤ c.value ∧ 0x30 ≤ d.value := by
      simp only [unitOfDigits?, Option.bind_eq_bind, Option.bind_eq_some_iff] at hdigits
      obtain ⟨_, ha, _, hb, _, hc, _, hd, -⟩ := hdigits
      exact ⟨hexDigit?_range ha, hexDigit?_range hb, hexDigit?_range hc, hexDigit?_range hd⟩
    obtain ⟨ha, hb, hc, hd⟩ := hrange
    refine ⟨.scalar '\\' :: .scalar 'u' :: a :: b :: c :: d :: raw, by rw [htext]; rfl, ?_, ?_, ?_⟩
    · exact isBody_escape (by decide) (isBody_cons_of_range ha (isBody_cons_of_range hb
        (isBody_cons_of_range hc (isBody_cons_of_range hd hbody))))
    · simp only [unitsWeight, StringUnit.weight, List.length_cons]
      omega
    · exact fun hslash => absurd List.mem_cons_self hslash
  case case8 e t _ _ p hescape _ ih =>
    obtain ⟨⟨us, after⟩, hread, heq⟩ := exists_of_bind_eq_ok h
    obtain ⟨rfl, rfl⟩ := Prod.mk.inj (Except.ok.inj heq)
    obtain ⟨raw, htext, hbody, hweight, -⟩ := ih hread
    have hp := p.weight_le_two
    refine ⟨.scalar '\\' :: e :: raw, by rw [htext]; rfl,
      isBody_escape (shortEscape?_range hescape) hbody, ?_, ?_⟩
    · simp only [unitsWeight, StringUnit.weight, List.length_cons]
      omega
    · exact fun hslash => absurd List.mem_cons_self hslash
  case case10 c t hquote hslash hcontrol ih =>
    obtain ⟨⟨us, after⟩, hread, heq⟩ := exists_of_bind_eq_ok h
    obtain ⟨rfl, rfl⟩ := Prod.mk.inj (Except.ok.inj heq)
    obtain ⟨raw, htext, hbody, hweight, hplain⟩ := ih hread
    have hordinary : ¬ c.IsSpecial := not_or.2 ⟨hquote, not_or.2 ⟨hslash, hcontrol⟩⟩
    refine ⟨c :: raw, by rw [htext]; rfl, isBody_cons hquote (Nat.not_lt.1 hcontrol) hbody, ?_, ?_⟩
    · simp only [unitsWeight, StringUnit.weight, List.length_cons]
      rw [CodePoint.weight, if_neg hordinary]
      omega
    · intro hmem
      rw [List.map_cons, hplain fun h => hmem (List.mem_cons_of_mem c h)]
  all_goals exact absurd h (by simp [malformed])

/-- **What a string is read from.** -/
theorem encodes_of_readString {t s rest : Text} (h : readString t = .ok (s, rest)) :
    ∃ raw, t = raw ++ .scalar '"' :: rest ∧ Encodes raw s := by
  obtain ⟨⟨units, after⟩, hread, heq⟩ := exists_of_bind_eq_ok h
  obtain ⟨rfl, rfl⟩ := Prod.mk.inj (Except.ok.inj heq)
  obtain ⟨raw, htext, hbody, hweight, hplain⟩ := unitsFrom_of_stringUnits hread
  refine ⟨raw, htext, hbody, (weight_joinUnits_le _).trans hweight, fun hslash => ?_⟩
  rw [hplain hslash, joinUnits_map_plain]

end Json
end DashboardSynthesis
