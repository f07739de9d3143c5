import DashboardSynthesis.Json.Printer
import Mathlib.Data.Nat.Notation
import Mathlib.Logic.Basic
import Mathlib.Tactic.SplitIfs

/-!
# Strings in JSON read back

A printed string is read as the text that was printed, whatever code points it holds: a lone surrogate
stands for itself, and a control character comes back from its escape (`readString_escape`).

Each code point is read as one unit.  Units are joined afterwards, two of them at a time if they are
halves of a pair, so it has to be said that no unit of a printed string is such a half; the only ones
that are written as numbers lie below U+0020.
-/

namespace DashboardSynthesis

namespace CodePoint

/-- A code point is found again by its number. -/
theorem ofNat?_value (c : CodePoint) : ofNat? c.value = some c := by
  cases c with
  | scalar c =>
    have hvalid : c.toNat.isValidChar := c.valid
    rw [ofNat?, value, dif_pos hvalid]
    rfl
  | surrogate n =>
    have hinvalid : ¬ (0xD800 + n.val).isValidChar := by
      rw [Nat.isValidChar]
      omega
    have hrange : 0xD800 ≤ 0xD800 + n.val ∧ 0xD800 + n.val < 0xE000 := by omega
    have hback : 0xD800 + n.val - 0xD800 = n.val := Nat.add_sub_cancel_left _ _
    unfold value
    unfold ofNat?
    rw [dif_neg hinvalid, dif_pos hrange]
    simp only [hback]

end CodePoint

namespace Json

theorem hexDigit?_hexDigit : ∀ n < 16, (hexDigit n).hexDigit? = some n := by decide

/-- The unit of a control character below U+0020 stands alone. -/
theorem joinUnits_unit {c : CodePoint} (h : c.value < 0x20) (units : List StringUnit) :
    joinUnits (.unit c.value :: units) = c :: joinUnits units := by
  have hself : (CodePoint.ofNat? c.value).toList = [c] := by rw [CodePoint.ofNat?_value]; rfl
  rw [joinUnits.eq_def]
  split
  · next heq => exact absurd heq (List.cons_ne_nil _ _)
  · next heq => exact absurd (List.cons.inj heq).1 (by simp)
  · next high low rest heq =>
    obtain ⟨hhigh, rfl⟩ := List.cons.inj heq
    have hlow : high < 0x20 := by
      rw [← StringUnit.unit.inj hhigh]
      exact h
    rw [if_neg (by omega), ← StringUnit.unit.inj hhigh, hself]
    rfl
  · next n rest _ heq =>
    obtain ⟨hn, rfl⟩ := List.cons.inj heq
    rw [← StringUnit.unit.inj hn, hself]
    rfl

/-- The escape of a code point is read as a unit that stands for the code point. -/
theorem exists_unit_of_escape (c : CodePoint) : ∃ u,
    (∀ units, joinUnits (u :: units) = c :: joinUnits units) ∧
      ∀ opening t, t ≠ [] → stringUnits opening (escape c ++ t) =
        (stringUnits opening t).map fun p => (u :: p.1, p.2) := by
  unfold escape
  split
  case h_8 h1 h2 h3 h4 h5 h6 h7 =>
    split_ifs with hcontrol
    · refine ⟨.unit c.value, joinUnits_unit hcontrol, fun opening t ht => ?_⟩
      obtain ⟨e, t, rfl⟩ := List.exists_cons_of_ne_nil ht
      have hunit : unitOfDigits? (.scalar '0') (.scalar '0') (hexDigit (c.value / 16))
          (hexDigit (c.value % 16)) = some c.value := by
        rw [unitOfDigits?, hexDigit?_hexDigit _ (by omega), hexDigit?_hexDigit _ (by omega)]
        show some _ = some _
        congr 1
        omega
      show stringUnits opening (.scalar '\\' :: .scalar 'u' :: .scalar '0' :: .scalar '0' ::
        hexDigit (c.value / 16) :: hexDigit (c.value % 16) :: e :: t) = _
      rw [stringUnits, if_neg (by decide), if_pos rfl, hunit]
      rfl
    · refine ⟨.plain c, fun _ => rfl, fun opening t _ => ?_⟩
      rw [List.singleton_append, stringUnits.eq_def]
      dsimp only
      rw [if_neg h1, if_neg h2, if_neg hcontrol]
      rfl
  all_goals exact ⟨.plain _, fun _ => rfl, fun _ _ _ => rfl⟩

theorem stringUnits_escape (s rest : Text) (opening : ℕ) :
    ∃ units, joinUnits units = s ∧
      stringUnits opening (s.flatMap escape ++ (.scalar '"' :: rest)) = .ok (units, rest) := by
  induction s with
  | nil =>
    refine ⟨[], rfl, ?_⟩
    rw [List.flatMap_nil, List.nil_append, stringUnits.eq_def]
    exact if_pos rfl
  | cons c s ih =>
    obtain ⟨units, hjoin, hread⟩ := ih
    obtain ⟨u, hu, hescape⟩ := exists_unit_of_escape c
    refine ⟨u :: units, by rw [hu, hjoin], ?_⟩
    rw [List.flatMap_cons, List.append_assoc, hescape _ _ (by simp), hread]
    rfl

/-- **A printed string reads back.** -/
theorem readString_escape (s rest : Text) :
    readString (s.flatMap escape ++ (.scalar '"' :: rest)) = .ok (s, rest) := by
  obtain ⟨units, hjoin, hread⟩ := stringUnits_escape s rest
    ((s.flatMap escape ++ (.scalar '"' :: rest)).length + 1)
  rw [readString, hread, ← hjoin]
  rfl

end Json
end DashboardSynthesis
