import DashboardSynthesis.Proofs.Json.Parts
import DashboardSynthesis.Report

/-!
# What can be written

A value can be written if every integer in it keeps the digit limit, which is to say that its amount is
below a power of ten (`isPrintable_int_iff`).  This is asked of lists and objects part by part, so it is
kept when a member is replaced by one that can be written (`membersArePrintable_set`).  Where values in a
message must not be nested too deeply, that is asked part by part as well (`membersNesting_le_iff`).
-/

namespace DashboardSynthesis
namespace Json

theorem isPrintable_int_iff {n : ℤ} : (Json.int n).isPrintable = true ↔ n.natAbs < 10 ^ digitLimit := by
  rw [isPrintable, decide_eq_true_iff]
  exact Nat.length_toDigits_le_iff (by norm_num) (by decide)

/-- What is nearer to zero has no more digits. -/
theorem isPrintable_int_of_le {m n : ℤ} (h : m.natAbs ≤ n.natAbs) (hn : (Json.int n).isPrintable = true) :
    (Json.int m).isPrintable = true :=
  isPrintable_int_iff.2 (lt_of_le_of_lt h (isPrintable_int_iff.1 hn))

theorem itemsArePrintable_iff {items : List Json} :
    itemsArePrintable items = true ↔ ∀ v ∈ items, v.isPrintable = true := by
  induction items with
  | nil => exact ⟨fun _ _ h => absurd h List.not_mem_nil, fun _ => rfl⟩
  | cons item items ih => rw [itemsArePrintable, Bool.and_eq_true, ih, List.forall_mem_cons]

theorem membersArePrintable_iff {members : Members} :
    membersArePrintable members = true ↔ ∀ m ∈ members, m.2.isPrintable = true := by
  induction members with
  | nil => exact ⟨fun _ _ h => absurd h List.not_mem_nil, fun _ => rfl⟩
  | cons m members ih => rw [membersArePrintable, Bool.and_eq_true, ih, List.forall_mem_cons]

theorem membersNesting_le_iff {members : Members} {levels : ℕ} :
    membersNesting members ≤ levels ↔ ∀ m ∈ members, m.2.nesting ≤ levels := by
  induction members with
  | nil => exact ⟨fun _ _ h => absurd h List.not_mem_nil, fun _ => Nat.zero_le _⟩
  | cons m members ih => rw [membersNesting, Nat.max_le, ih, List.forall_mem_cons]

theorem isPrintable_of_get? {members : Members} (h : membersArePrintable members = true) {key : Text}
    {v : Json} (hv : members.get? key = some v) : v.isPrintable = true :=
  membersArePrintable_iff.1 h _ (Members.mem_of_get? hv)

theorem membersArePrintable_set {members : Members} (h : membersArePrintable members = true) (key : Text)
    {v : Json} (hv : v.isPrintable = true) : membersArePrintable (members.set key v) = true := by
  rw [membersArePrintable_iff] at *
  intro m hm
  rcases Members.mem_set hm with rfl | hm
  · exact hv
  · exact h m hm

end Json
end DashboardSynthesis
