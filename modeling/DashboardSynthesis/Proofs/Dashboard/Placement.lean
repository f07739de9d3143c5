import DashboardSynthesis.Proofs.Dashboard.Edits
import DashboardSynthesis.Proofs.Json.Limits
import Mathlib.Algebra.Order.Group.Int

/-!
# Where generated panels go

The panels that are added to a document are determined by three things that it has at the start: the id
for the next panel, the cursor and the datasource that its panels offer.  Each panel takes the next id
and the next place (`nextPanelId_addPanel`, `cursor_addPanel`), and the datasource stays the same
(`defaultDatasource?_addPanel`), for a new panel offers none but the one it was given.  So the panels are
those of `generated`, whatever else the document holds (`panels_addPanels`).

On an empty row the panels stand in pairs: the `k`-th one is in column `12 * (k % 2)`, and `8 * (k / 2)`
rows down (`Grid.Cursor.place_iterate_next`).
-/

namespace DashboardSynthesis

/-! ## Places -/

theorem Grid.Cursor.place_next_left {c : Grid.Cursor} {y : ℤ} (h : c.place = ⟨0, y⟩) :
    c.next.place = ⟨12, y⟩ := by
  rw [next, h]
  rfl

theorem Grid.Cursor.place_next_right {c : Grid.Cursor} {y : ℤ} (h : c.place = ⟨12, y⟩) :
    c.next.place = ⟨0, y + 8⟩ := by
  rw [next, h]
  rfl

/-- **Pairs.**  The places that a cursor at the left edge goes through. -/
theorem Grid.Cursor.place_iterate_next (y : ℤ) (k : ℕ) :
    (next^[k] ⟨0, y⟩).place = ⟨12 * (k % 2), y + 8 * (k / 2 : ℕ)⟩ := by
  induction k with
  | zero =>
    show (⟨0, y⟩ : Grid.Place) = ⟨0, y + 8 * 0⟩
    rw [mul_zero, add_zero]
  | succ k ih =>
    rw [Function.iterate_succ_apply']
    rcases Nat.mod_two_eq_zero_or_one k with hk | hk
    · rw [hk] at ih
      rw [place_next_left ih, show (k + 1) % 2 = 1 by omega, show (k + 1) / 2 = k / 2 by omega]
    · rw [hk] at ih
      rw [place_next_right ih, show (k + 1) % 2 = 0 by omega, show (k + 1) / 2 = k / 2 + 1 by omega,
        Nat.cast_succ, mul_add, mul_one, add_assoc]

namespace Document

/-! ## What a generated panel gives to others -/

section Content

variable (content : PanelContent) (id : ℤ) (place : Grid.Place) (datasource : Option Json)

theorem children_toJson : children (content.toJson id place datasource) = [] := by
  have hnested : present? (content.toJson id place datasource) "panels" = none := by
    rw [present?, PanelContent.toJson, Json.get?, get?_withDatasource _ _ (by decide)]
    rfl
  rw [children, hnested]

theorem integerId?_toJson : integerId? (content.toJson id place datasource) = some id := by
  rw [integerId?, id_toJson]

/-- A generated panel offers the datasource that it was given. -/
theorem offeredDatasource?_toJson :
    offeredDatasource? (content.toJson id place datasource) = datasource.filter Json.isTruthy := by
  have hkind : content.kind.name ≠ "row" := by cases content.kind <;> decide
  have hget : (content.toJson id place datasource).get? "datasource" = datasource := by
    cases datasource <;> rfl
  rw [offeredDatasource?, type_toJson]
  dsimp only
  rw [if_neg hkind, present?, hget]

end Content

theorem withChildren_append (panels : List Json) (panel : Json) :
    withChildren (panels ++ [panel]) = withChildren panels ++ panel :: children panel := by
  rw [withChildren, withChildren, List.flatMap_append, List.flatMap_singleton]

section AddPanel

variable (d : Document) (content : PanelContent)

theorem withChildren_addPanel :
    withChildren (d.addPanel content).panels = withChildren d.panels ++ [d.newPanel content] := by
  rw [panels_addPanel, withChildren_append, newPanel, children_toJson]

/-- The next id is one more than before. -/
theorem nextPanelId_addPanel : (d.addPanel content).nextPanelId = d.nextPanelId + 1 := by
  have hids : (withChildren (d.addPanel content).panels).filterMap integerId? =
      (withChildren d.panels).filterMap integerId? ++ [d.nextPanelId] := by
    rw [withChildren_addPanel, List.filterMap_append, newPanel]
    simp [integerId?_toJson]
  rw [nextPanelId, hids]
  cases hold : (withChildren d.panels).filterMap integerId? with
  | nil => rw [nextPanelId, hold]; rfl
  | cons i is =>
    have hnext : d.nextPanelId = is.foldl max i + 1 := by rw [nextPanelId, hold]
    rw [List.cons_append]
    dsimp only
    rw [List.foldl_append, List.foldl_cons, List.foldl_nil, hnext, max_eq_right (by omega)]

/-- The datasource is the same as before. -/
theorem defaultDatasource?_addPanel :
    (d.addPanel content).defaultDatasource? = d.defaultDatasource? := by
  rw [defaultDatasource?, withChildren_addPanel, List.findSome?_append, ← defaultDatasource?]
  cases hold : d.defaultDatasource? with
  | some v => rfl
  | none =>
    rw [newPanel, hold, List.findSome?_singleton, offeredDatasource?_toJson]
    rfl

end AddPanel

/-! ## All generated panels -/

/-- The panels for contents, from an id, a cursor and a datasource on. -/
def generated (datasource : Option Json) : (id : ℤ) → Grid.Cursor → List PanelContent → List Json
  | _, _, [] => []
  | id, c, content :: rest =>
    content.toJson id c.place datasource :: generated datasource (id + 1) c.next rest

theorem panels_addPanels (d : Document) (contents : List PanelContent) :
    (contents.foldl addPanel d).panels =
      d.panels ++ generated d.defaultDatasource? d.nextPanelId d.cursor contents := by
  induction contents generalizing d with
  | nil => exact (List.append_nil _).symm
  | cons content contents ih =>
    rw [List.foldl_cons, ih, panels_addPanel, nextPanelId_addPanel, defaultDatasource?_addPanel,
      List.append_assoc]
    rfl

/-- **Adding panels.**  They come behind the panels that are there, and nothing else changes. -/
theorem members_addPanels {d : Document} (h : d.members.get? "panels" = some (.arr d.panels))
    (contents : List PanelContent) :
    (contents.foldl addPanel d).members = d.members.set "panels"
      (.arr (d.panels ++ generated d.defaultDatasource? d.nextPanelId d.cursor contents)) := by
  rw [← panels_addPanels]
  induction contents generalizing d with
  | nil => exact (Json.Members.set_of_get? h).symm
  | cons content contents ih =>
    have hset : (d.addPanel content).members.get? "panels" =
        some (.arr (d.addPanel content).panels) := by
      rw [panels_addPanel]
      exact Json.Members.get?_set_self _ _ _
    rw [List.foldl_cons, ih hset]
    exact Json.Members.set_set _ _ _ _

theorem forall₂_generated (datasource : Option Json) (id : ℤ) (c : Grid.Cursor)
    (contents : List PanelContent) :
    List.Forall₂ (fun (content : PanelContent) panel =>
      ∃ id place datasource, panel = content.toJson id place datasource) contents
      (generated datasource id c contents) := by
  induction contents generalizing id c with
  | nil => exact .nil
  | cons content contents ih => exact .cons ⟨id, c.place, datasource, rfl⟩ (ih _ _)

theorem isSound_addPanels {d : Document} (h : d.IsSound) (contents : List PanelContent) :
    (contents.foldl addPanel d).IsSound := by
  induction contents generalizing d with
  | nil => exact h
  | cons content contents ih => exact ih (h.addPanel content)

theorem forall_generated_iff {p : Json → Prop} {datasource : Option Json} {id : ℤ} {c : Grid.Cursor}
    {contents : List PanelContent} :
    (∀ panel ∈ generated datasource id c contents, p panel) ↔
      ∀ (k : ℕ) (content : PanelContent), contents[k]? = some content →
        p (content.toJson (id + k) (Grid.Cursor.next^[k] c).place datasource) := by
  induction contents generalizing id c with
  | nil => simp [generated]
  | cons content contents ih =>
    rw [generated, List.forall_mem_cons, ih]
    constructor
    · rintro ⟨hfirst, hrest⟩ k content' hk
      cases k with
      | zero =>
        rw [List.getElem?_cons_zero, Option.some_inj] at hk
        rw [← hk, Nat.cast_zero, add_zero]
        exact hfirst
      | succ k =>
        rw [Nat.cast_succ, Function.iterate_succ_apply, add_comm (k : ℤ) 1, ← add_assoc]
        exact hrest k content' hk
    · intro h
      refine ⟨by simpa using h 0 content rfl, fun k content' hk => ?_⟩
      have hk' := h (k + 1) content' hk
      rwa [Nat.cast_succ, Function.iterate_succ_apply, add_comm (k : ℤ) 1, ← add_assoc] at hk'

/-! ## Writing them -/

section Limits

variable {content : PanelContent} {id : ℤ} {place : Grid.Place} {datasource : Option Json}

theorem membersArePrintable_withDatasource (members : Json.Members) :
    Json.membersArePrintable (PanelContent.withDatasource members datasource) =
      (Json.membersArePrintable members && datasource.all Json.isPrintable) := by
  cases datasource with
  | none => rw [PanelContent.withDatasource, Option.all_none, Bool.and_true]
  | some v =>
    rw [PanelContent.withDatasource, Bool.eq_iff_iff, Bool.and_eq_true, Option.all_some,
      Json.membersArePrintable_iff, List.forall_mem_append, List.forall_mem_singleton,
      Json.membersArePrintable_iff]

theorem isPrintable_fieldDefaults : content.fieldDefaults.isPrintable = true := by
  unfold PanelContent.fieldDefaults
  split <;> rfl

/-- A generated panel can be written if its id, its place and its datasource can. -/
theorem isPrintable_toJson_iff :
    (content.toJson id place datasource).isPrintable = true ↔ (Json.int id).isPrintable = true ∧
      place.toJson.isPrintable = true ∧ datasource.all Json.isPrintable = true := by
  have htarget : (content.target datasource).isPrintable = datasource.all Json.isPrintable := by
    show Json.membersArePrintable (PanelContent.withDatasource _ _) = _
    rw [membersArePrintable_withDatasource]
    rfl
  show Json.membersArePrintable (PanelContent.withDatasource _ _) = true ↔ _
  rw [membersArePrintable_withDatasource]
  simp [Json.isPrintable, Json.membersArePrintable, Json.itemsArePrintable, isPrintable_fieldDefaults,
    htarget]
  tauto

theorem membersDepth_withDatasource {members : Json.Members} {n : ℕ}
    (hmembers : Json.membersDepth members ≤ n) (h : ∀ v, datasource = some v → v.depth ≤ n) :
    Json.membersDepth (PanelContent.withDatasource members datasource) ≤ n := by
  cases datasource with
  | none => exact hmembers
  | some v =>
    rw [Json.membersDepth_le_iff] at hmembers ⊢
    exact List.forall_mem_append.2 ⟨hmembers, List.forall_mem_singleton.2 (h v rfl)⟩

/-- A generated panel is nested at most four levels deeper than its datasource. -/
theorem depth_toJson_le {n : ℕ} (h : ∀ v, datasource = some v → v.depth ≤ n) :
    (content.toJson id place datasource).depth ≤ n + 4 := by
  have htarget : (content.target datasource).depth ≤ n + 1 := by
    refine Nat.succ_le_succ (membersDepth_withDatasource ?_ h)
    exact Nat.zero_le n
  have hfields : content.fieldDefaults.depth ≤ 2 := by
    unfold PanelContent.fieldDefaults
    split
    · exact Nat.zero_lt_two
    · exact Nat.zero_lt_two
    · exact le_rfl
  have hplace : place.toJson.depth = 1 := rfl
  refine Nat.succ_le_succ (membersDepth_withDatasource ?_ fun v hv => (h v hv).trans (by omega))
  simp only [Json.membersDepth, Json.depth, Json.itemsDepth]
  omega

end Limits

end Document
end DashboardSynthesis
