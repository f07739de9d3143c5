import DashboardSynthesis.Proofs.Json.Parts
import DashboardSynthesis.Proofs.Text.Scalars

/-!
# Values without surrogates

An escape in a JSON text can put a lone surrogate into a value, as a key or in a text, at any depth.  Such a
value is written with the surrogate as it stands, since writing escapes nothing beyond the control characters:
what is written holds a surrogate exactly if the value does (`isScalar_print_iff`).
-/

namespace DashboardSynthesis
namespace Json

open Text

/-- No key of this object holds a surrogate, nor does this text. -/
def LocallyScalar : Json → Prop
  | .str t => t.IsScalar
  | .obj members => ∀ key ∈ Members.keys members, key.IsScalar
  | _ => True

/-- No key and no text in the value holds a surrogate. -/
def IsScalar (v : Json) : Prop := v.Each LocallyScalar

variable {items : List Json} {members : Members} {v : Json}

@[simp] theorem isScalar_null : Json.null.IsScalar := trivial

@[simp] theorem isScalar_bool (b : Bool) : (Json.bool b).IsScalar := trivial

@[simp] theorem isScalar_int (n : Int) : (Json.int n).IsScalar := trivial

@[simp] theorem isScalar_str_iff {t : Text} : (Json.str t).IsScalar ↔ t.IsScalar := Iff.rfl

@[simp] theorem isScalar_arr_iff : (Json.arr items).IsScalar ↔ ∀ item ∈ items, item.IsScalar := by
  rw [IsScalar, Each, eachItem_iff]
  exact and_iff_right trivial

@[simp] theorem isScalar_obj_iff :
    (Json.obj members).IsScalar ↔ ∀ m ∈ members, m.1.IsScalar ∧ m.2.IsScalar := by
  rw [IsScalar, Each, eachMember_iff, LocallyScalar]
  refine ⟨fun h m hm => ⟨h.1 _ (List.mem_map_of_mem hm), h.2 m hm⟩, fun h => ⟨fun key hkey => ?_, ?_⟩⟩
  · obtain ⟨m, hm, rfl⟩ := List.mem_map.1 hkey
    exact (h m hm).1
  · exact fun m hm => (h m hm).2

/-! ## Writing -/

theorem isScalar_escape (c : CodePoint) : (escape c).IsScalar ↔ c.isScalar = true := by
  cases c with
  | surrogate n =>
    have hlarge : ¬ (CodePoint.surrogate n).value < 0x20 := by
      rw [CodePoint.value]
      omega
    have hplain : escape (.surrogate n) = [.surrogate n] := if_neg hlarge
    rw [hplain, isScalar_cons]
    simp
  | scalar c =>
    refine iff_of_true ?_ rfl
    rw [escape.eq_def]
    split
    case h_8 => split <;> simp [hexDigit]
    all_goals exact isScalar_ofString _

theorem isScalar_quote_iff {t : Text} : (quote t).IsScalar ↔ t.IsScalar := by
  simp [quote, isScalar_flatMap isScalar_escape]

theorem isScalar_lineBreak (layout : Layout) (level : Nat) : (layout.lineBreak level).IsScalar := by
  cases layout <;> simp [Layout.lineBreak]

theorem isScalar_separator (layout : Layout) (level : Nat) : (layout.separator level).IsScalar := by
  cases layout <;> simp [Layout.separator, isScalar_lineBreak]

mutual

/-- **What is written holds a surrogate exactly if the value does.** -/
theorem isScalar_print_iff (layout : Layout) (level : Nat) :
    ∀ v : Json, (print layout level v).IsScalar ↔ v.IsScalar
  | .null => iff_of_true (isScalar_ofString _) trivial
  | .bool true => iff_of_true (isScalar_ofString _) trivial
  | .bool false => iff_of_true (isScalar_ofString _) trivial
  | .int n => iff_of_true (isScalar_ofInt n) trivial
  | .float x => iff_of_true (Shortest.isScalar_text (isScalar_ofString _) (isScalar_ofString _)
      (isScalar_ofString _) x) trivial
  | .str t => isScalar_quote_iff
  | .arr [] => iff_of_true (isScalar_ofString _) ⟨trivial, trivial⟩
  | .arr (item :: items) => by
    rw [isScalar_arr_iff, List.forall_mem_cons, ← isScalar_print_iff layout (level + 1) item,
      ← isScalar_printItems_iff layout (level + 1) items, print]
    simp [isScalar_lineBreak]
  | .obj [] => iff_of_true (isScalar_ofString _) (isScalar_obj_iff.2 fun _ h => absurd h List.not_mem_nil)
  | .obj ((key, value) :: members) => by
    rw [isScalar_obj_iff, List.forall_mem_cons, ← isScalar_print_iff layout (level + 1) value,
      ← isScalar_printMembers_iff layout (level + 1) members, print]
    simp [isScalar_lineBreak, isScalar_quote_iff, and_assoc]

theorem isScalar_printItems_iff (layout : Layout) (level : Nat) :
    ∀ items : List Json, (printItems layout level items).IsScalar ↔ ∀ item ∈ items, item.IsScalar
  | [] => by simp [printItems]
  | item :: items => by
    rw [List.forall_mem_cons, ← isScalar_print_iff layout level item,
      ← isScalar_printItems_iff layout level items, printItems]
    simp [isScalar_separator]

theorem isScalar_printMembers_iff (layout : Layout) (level : Nat) :
    ∀ members : Members, (printMembers layout level members).IsScalar ↔
      ∀ m ∈ members, m.1.IsScalar ∧ m.2.IsScalar
  | [] => by simp [printMembers]
  | (key, value) :: members => by
    rw [List.forall_mem_cons, ← isScalar_print_iff layout level value,
      ← isScalar_printMembers_iff layout level members, printMembers]
    simp [isScalar_separator, isScalar_quote_iff, and_assoc]

end

end Json
end DashboardSynthesis
