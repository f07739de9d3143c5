import DashboardSynthesis.Proofs.Dashboard.Runs

/-!
# Ids of generated panels

A generated panel takes the id behind the last one, where the last one is looked for among the top-level
panels and the panels nested directly in them.  So the ids of the panels that a run of edits adds count on
from the last id of the template (`panelIds_edits`), and none of them is the id of another panel.
-/

namespace DashboardSynthesis
namespace Document

/-- The integer ids of panels and of those nested directly in them. -/
def integerIds (panels : List Json) : List ℤ := (withChildren panels).filterMap integerId?

/-- The greatest integer id, which is zero where there is none. -/
def lastId (panels : List Json) : ℤ := (integerIds panels).max?.getD 0

/-- Panels that are added behind others have the ids that follow, and so ids of their own. -/
structure HaveNextIds (template added : List Json) : Prop where
  /-- The ids count on from the last one. -/
  next : ∀ (k : ℕ) panel, added[k]? = some panel →
    panel.get? "id" = some (.int (lastId template + (k + 1)))
  /-- None of them is an id of the template. -/
  new : ∀ panel ∈ added, ∀ i ∈ integerIds template, panel.get? "id" ≠ some (.int i)
  /-- No two of them are the same. -/
  distinct : added.Pairwise fun p q => p.get? "id" ≠ q.get? "id"

variable {template added : List Json}

theorem nextPanelId_eq_lastId (d : Document) : d.nextPanelId = lastId d.panels + 1 := by
  rw [nextPanelId, lastId, integerIds]
  cases (withChildren d.panels).filterMap integerId? with
  | nil => rfl
  | cons id ids =>
    rw [List.max?_cons', Option.getD_some]

theorem le_lastId {i : ℤ} (hi : i ∈ integerIds template) : i ≤ lastId template := by
  cases hmax : (integerIds template).max? with
  | none =>
    rw [List.max?_eq_none_iff] at hmax
    rw [hmax] at hi
    exact absurd hi List.not_mem_nil
  | some m =>
    have hgreatest := (List.max?_eq_some_iff.1 hmax).2 i hi
    rwa [lastId, hmax, Option.getD_some]

/-- Ids that count on from the last one are new and distinct. -/
theorem haveNextIds_of_next
    (h : ∀ (k : ℕ) panel, added[k]? = some panel →
      panel.get? "id" = some (.int (lastId template + (k + 1)))) : HaveNextIds template added := by
  refine ⟨h, ?_, ?_⟩
  · intro panel hpanel i hi hid
    obtain ⟨k, hk⟩ := List.mem_iff_getElem?.1 hpanel
    have hsame := (h k panel hk).symm.trans hid
    have hle := le_lastId hi
    rw [Option.some_inj, Json.int.injEq] at hsame
    omega
  · rw [List.pairwise_iff_getElem]
    intro i j hi hj hij hid
    rw [h i _ (List.getElem?_eq_getElem hi), h j _ (List.getElem?_eq_getElem hj), Option.some_inj,
      Json.int.injEq] at hid
    omega

theorem haveNextIds_generated (datasource : Option Json) (c : Grid.Cursor)
    (contents : List PanelContent) :
    HaveNextIds template (generated datasource (lastId template + 1) c contents) := by
  refine haveNextIds_of_next fun k panel hk => ?_
  rw [getElem?_generated] at hk
  obtain ⟨content, -, rfl⟩ := Option.map_eq_some_iff.1 hk
  rw [id_toJson, add_assoc, add_comm (1 : ℤ)]

/-- **Fresh ids.**  Whatever edits an accepted dashboard goes through, its own panels stay as they are, and
behind them stands a panel for each one that was added, in order, with the ids that follow. -/
theorem panelIds_edits {text : Text} {members : Json.Members} {d : Document}
    (hread : Json.read text = .ok (.obj members)) (hparse : parse text = .ok d) (es : List Edit) :
    ∃ added, (d.edits es).panels = panelsOf members ++ added ∧
      List.Forall₂ (fun (content : PanelContent) panel =>
        ∃ id place datasource, panel = content.toJson id place datasource) (contentsOf es) added ∧
      HaveNextIds (panelsOf members) added := by
  obtain ⟨hpanels, -⟩ := of_parse hread hparse
  refine ⟨generated d.defaultDatasource? d.nextPanelId d.cursor (contentsOf es), ?_,
    forall₂_generated _ _ _ _, ?_⟩
  · rw [panels_edits, hpanels]
  · rw [nextPanelId_eq_lastId, hpanels]
    exact haveNextIds_generated _ _ _

/-- A dashboard with ids at both levels, one of which is a boolean. -/
def nestedSource : Text :=
  "\x7b\"panels\": [\x7b\"id\": 3, \"panels\": [\x7b\"id\": 7\x7d, \x7b\x7d]\x7d, \x7b\"id\": true\x7d]\x7d"

theorem panelIds_edits_nested :
    ∃ members d, Json.read nestedSource = .ok (.obj members) ∧ parse nestedSource = .ok d ∧
      lastId (panelsOf members) = 7 ∧ ∃ added,
        (d.edits (someEdits ++ someEdits)).panels = panelsOf members ++ added ∧
        List.Forall₂ (fun (content : PanelContent) panel =>
          ∃ id place datasource, panel = content.toJson id place datasource)
          (contentsOf (someEdits ++ someEdits)) added ∧
        HaveNextIds (panelsOf members) added := by
  have hlast : (parse nestedSource).toOption.any (fun d => lastId d.panels = 7) = true := by
    decide +kernel
  obtain ⟨d, hd, hid⟩ := (Option.any_eq_true _ _).1 hlast
  have hparse := eq_ok_of_toOption_eq_some hd
  obtain ⟨members, hread, -⟩ := parse_eq_ok_iff.1 hparse
  rw [decide_eq_true_iff, (of_parse hread hparse).1] at hid
  exact ⟨members, d, hread, hparse, hid, panelIds_edits hread hparse _⟩

end Document
end DashboardSynthesis
