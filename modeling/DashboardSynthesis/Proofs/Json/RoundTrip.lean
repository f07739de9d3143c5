import DashboardSynthesis.Proofs.Json.Parts
import DashboardSynthesis.Proofs.Json.Spelling

/-!
# What is printed reads back

A normal value that can be printed is what its text is read as, in every layout (`read_print`).  Both
conditions are needed: of two members with one key the reader keeps the last, and it refuses an integer
beyond the digit limit.
-/

namespace DashboardSynthesis
namespace Json

theorem Layout.isBlanks_lineBreak (layout : Layout) (level : ℕ) :
    IsBlanks (layout.lineBreak level) := by
  cases layout with
  | compact => exact isBlanks_nil
  | indented width =>
    intro c hc
    rcases List.mem_cons.1 hc with rfl | hc
    · rfl
    · rw [List.eq_of_mem_replicate hc]
      rfl

theorem Layout.separator_eq (layout : Layout) (level : ℕ) :
    ∃ b, IsBlanks b ∧ layout.separator level = .scalar ',' :: b := by
  cases layout with
  | compact => exact ⟨[.scalar ' '], by rintro c (_ | ⟨_, ⟨⟩⟩); rfl, rfl⟩
  | indented width => exact ⟨_, isBlanks_lineBreak (.indented width) level, rfl⟩

theorem closingBracket : ("]" : Text) = [.scalar ']'] := rfl

theorem closingBrace : ("\x7d" : Text) = [.scalar '}'] := rfl

theorem quote_append_eq_memberText (key t : Text) :
    quote key ++ ((": " : Text) ++ t) = memberText key [] [.scalar ' '] t := rfl

theorem isBlanks_space : IsBlanks [.scalar ' '] := by
  intro c hc
  rw [List.mem_singleton.1 hc]
  rfl

mutual

theorem spells_print (layout : Layout) (level : ℕ) :
    ∀ v : Json, v.IsNormal → v.isPrintable = true → Spells (print layout level v) v
  | .null, _, _ => spells_null
  | .bool true, _, _ => spells_bool true
  | .bool false, _, _ => spells_bool false
  | .int _, _, hp => spells_int hp
  | .float _, hn, _ => spells_float hn
  | .str s, _, _ => spells_str s
  | .arr [], _, _ => spells_arr_nil
  | .arr (item :: items), hn, hp => by
    have h := spells_arr (layout.isBlanks_lineBreak (level + 1))
      (spellsItems_print layout (level + 1) item items (layout.isBlanks_lineBreak level) hn.2 hp)
    have htext : print layout level (.arr (item :: items)) =
        .scalar '[' :: (layout.lineBreak (level + 1) ++ (print layout (level + 1) item ++
          (printItems layout (level + 1) items ++ (layout.lineBreak level ++ [.scalar ']'])))) := by
      rw [print, closingBracket]
      simp only [List.append_assoc, List.cons_append]
    rw [htext]
    exact h
  | .obj [], _, _ => spells_obj_nil
  | .obj ((key, value) :: members), hn, hp => by
    have h := spells_obj (layout.isBlanks_lineBreak (level + 1))
      (spellsMembers_print layout (level + 1) key value members (layout.isBlanks_lineBreak level)
        hn.2 hp) hn.1
    have htext : print layout level (.obj ((key, value) :: members)) =
        .scalar '{' :: (layout.lineBreak (level + 1) ++ memberText key [] [.scalar ' ']
          (print layout (level + 1) value ++ (printMembers layout (level + 1) members ++
            (layout.lineBreak level ++ [.scalar '}'])))) := by
      rw [print, closingBrace, ← quote_append_eq_memberText]
      simp only [List.append_assoc, List.cons_append]
    rw [htext]
    exact h
termination_by v => sizeOf v

theorem spellsItems_print (layout : Layout) (level : ℕ) (item : Json) : ∀ (items : List Json)
    {b : Text}, IsBlanks b → EachItem LocallyNormal (item :: items) →
    itemsArePrintable (item :: items) = true →
    SpellsItems (print layout level item ++ (printItems layout level items ++ (b ++ [.scalar ']'])))
      (item :: items)
  | [], _, hb, hn, hp =>
    .single (spells_print layout level item hn.1 (Bool.and_eq_true_iff.1 hp).1) hb
  | next :: items, b, hb, hn, hp => by
    obtain ⟨b', hb', hseparator⟩ := layout.separator_eq level
    have hp' := Bool.and_eq_true_iff.1 hp
    have h := SpellsItems.cons (spells_print layout level item hn.1 hp'.1) isBlanks_nil hb'
      (spellsItems_print layout level next items hb hn.2 hp'.2)
    rw [printItems, hseparator]
    simpa using h
termination_by items => sizeOf (item :: items)

theorem spellsMembers_print (layout : Layout) (level : ℕ) (key : Text) (value : Json) :
    ∀ (members : Members) {b : Text}, IsBlanks b → EachMember LocallyNormal ((key, value) :: members) →
      membersArePrintable ((key, value) :: members) = true →
      SpellsMembers (memberText key [] [.scalar ' '] (print layout level value ++
        (printMembers layout level members ++ (b ++ [.scalar '}'])))) ((key, value) :: members)
  | [], _, hb, hn, hp =>
    .single key isBlanks_nil isBlanks_space
      (spells_print layout level value hn.1 (Bool.and_eq_true_iff.1 hp).1) hb
  | (key', value') :: members, b, hb, hn, hp => by
    obtain ⟨b', hb', hseparator⟩ := layout.separator_eq level
    have hp' := Bool.and_eq_true_iff.1 hp
    have h := SpellsMembers.cons key isBlanks_nil isBlanks_space
      (spells_print layout level value hn.1 hp'.1) isBlanks_nil hb'
      (spellsMembers_print layout level key' value' members hb hn.2 hp'.2)
    rw [printMembers, hseparator]
    simpa [← quote_append_eq_memberText] using h
termination_by members => sizeOf ((key, value) :: members)

end

/-- **What is printed reads back.** -/
theorem read_print (layout : Layout) {v : Json} (hn : v.IsNormal) (hp : v.isPrintable = true)
    (hdepth : v.depth ≤ nestingLimit) : read (print layout 0 v) = .ok v := by
  have h := read_of_spells (spells_print layout 0 v hn hp) hdepth isBlanks_nil
  rwa [List.append_nil] at h

end Json
end DashboardSynthesis
