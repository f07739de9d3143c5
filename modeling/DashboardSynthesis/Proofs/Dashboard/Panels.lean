import DashboardSynthesis.Proofs.Dashboard.Acceptance

/-!
# Generated panels

Whatever content a generated panel shows, under whatever id, place and datasource, it is a normal value
(`isNormal_toJson`) and acceptable as a panel of a dashboard (`panelIsAcceptable_toJson`).  What it shows
can be read off it: `queryOf?` and `axisLabelOf?` find the query and the axis label in any panel, and in
a generated one they find those of its content, the query with its surrogates joined.
-/

namespace DashboardSynthesis
namespace Document

open Json (EachMember LocallyNormal)

theorem isNormal_withDatasource {members : Json.Members} (hmembers : EachMember LocallyNormal members)
    (hkeys : (("datasource" : Text) :: members.keys).Nodup) {datasource : Option Json}
    (h : ∀ v, datasource = some v → v.IsNormal) :
    (Json.obj (PanelContent.withDatasource members datasource)).IsNormal := by
  rw [List.nodup_cons] at hkeys
  cases datasource with
  | none => exact ⟨hkeys.2, hmembers⟩
  | some v =>
    have hset : members ++ [(("datasource" : Text), v)] = members.set "datasource" v :=
      (Json.Members.set_of_not_mem hkeys.1 v).symm
    rw [PanelContent.withDatasource, hset]
    exact ⟨Json.Members.nodup_set hkeys.2 _ v, Json.eachMember_set hmembers _ (h v rfl)⟩

theorem isNormal_fieldDefaults (content : PanelContent) : content.fieldDefaults.IsNormal := by
  unfold PanelContent.fieldDefaults
  split
  · exact ⟨List.nodup_nil, trivial⟩
  · exact ⟨List.nodup_nil, trivial⟩
  · exact ⟨List.nodup_singleton _, ⟨List.nodup_singleton _, trivial, trivial⟩, trivial⟩

theorem isNormal_toJson (content : PanelContent) (id : ℤ) (place : Grid.Place)
    {datasource : Option Json} (h : ∀ v, datasource = some v → v.IsNormal) :
    (content.toJson id place datasource).IsNormal := by
  have hempty : (Json.arr []).IsNormal := ⟨trivial, trivial⟩
  have htarget : (content.target datasource).IsNormal := by
    refine isNormal_withDatasource ?_ ?_ h
    · exact ⟨trivial, trivial, trivial⟩
    · simp only [Json.Members.keys, List.map]
      decide
  have hfields : (Json.obj [("defaults", content.fieldDefaults), ("overrides", .arr [])]).IsNormal := by
    refine ⟨?_, isNormal_fieldDefaults content, hempty, trivial⟩
    simp only [LocallyNormal, Json.Members.keys, List.map]
    decide
  have hplace : place.toJson.IsNormal := by
    refine ⟨?_, trivial, trivial, trivial, trivial, trivial⟩
    simp only [LocallyNormal, Json.Members.keys, List.map]
    decide
  refine isNormal_withDatasource ?_ ?_ h
  · exact ⟨trivial, trivial, hempty, trivial, hfields, ⟨trivial, htarget, trivial⟩, trivial, trivial,
      trivial, hplace, trivial⟩
  · simp only [Json.Members.keys, List.map]
    decide

theorem get?_withDatasource (members : Json.Members) (datasource : Option Json) {key : Text}
    (hkey : key ≠ "datasource") :
    Json.Members.get? (PanelContent.withDatasource members datasource) key = members.get? key := by
  cases datasource with
  | none => rfl
  | some v =>
    rw [PanelContent.withDatasource, Json.Members.get?_append, Json.Members.get?,
      if_neg hkey.symm, Json.Members.get?, Option.or_none]

theorem panelIsAcceptable_toJson (content : PanelContent) (id : ℤ) (place : Grid.Place)
    (datasource : Option Json) : PanelIsAcceptable (content.toJson id place datasource) := by
  have hgrid : present? (content.toJson id place datasource) "gridPos" = some place.toJson := by
    rw [present?, PanelContent.toJson, Json.get?, get?_withDatasource _ _ (by decide)]
    rfl
  have hnested : present? (content.toJson id place datasource) "panels" = none := by
    rw [present?, PanelContent.toJson, Json.get?, get?_withDatasource _ _ (by decide)]
    rfl
  refine ⟨⟨rfl, ?_, ?_⟩, place.y + Grid.panelHeight, ?_⟩
  · intro v hv
    rw [hgrid, Option.some_inj] at hv
    rw [← hv]
    rfl
  · intro v hv
    rw [hnested] at hv
    exact absurd hv (by simp)
  · rw [bottom, coordinate, coordinate, hgrid]
    rfl

/-! ## What a panel shows -/

/-- The query of a panel that has a single one. -/
def queryOf? (panel : Json) : Option Text :=
  match panel.get? "targets" with
  | some (.arr [target]) =>
    match target.get? "expr" with
    | some (.str query) => some query
    | _ => none
  | _ => none

theorem of_queryOf? {p : Json → Prop} {panel : Json} {query : Text} (h : panel.Each p)
    (hquery : queryOf? panel = some query) : p (.str query) := by
  unfold queryOf? at hquery
  split at hquery
  · next target htargets =>
    split at hquery
    · next expr hexpr =>
      rw [← Option.some_inj.1 hquery]
      exact ((h.value htargets).2.1.value hexpr).self
    · exact absurd hquery (by simp)
  · exact absurd hquery (by simp)

/-- The value under keys, one inside the other. -/
def valueAt? (v : Json) : List Text → Option Json
  | [] => some v
  | key :: keys => (v.get? key).bind fun w => valueAt? w keys

/-- The axis label of a panel, if it has one. -/
def axisLabelOf? (panel : Json) : Option Text :=
  match valueAt? panel ["fieldConfig", "defaults", "custom", "axisLabel"] with
  | some (.str label) => some label
  | _ => none

section Content

variable (content : PanelContent) (id : ℤ) (place : Grid.Place) (datasource : Option Json)

theorem type_toJson :
    (content.toJson id place datasource).get? "type" = some (.str content.kind.name) := by
  rw [PanelContent.toJson, Json.get?, get?_withDatasource _ _ (by decide)]
  rfl

theorem title_toJson :
    (content.toJson id place datasource).get? "title" = some (.str (Json.joined content.title)) := by
  rw [PanelContent.toJson, Json.get?, get?_withDatasource _ _ (by decide)]
  rfl

theorem id_toJson : (content.toJson id place datasource).get? "id" = some (.int id) := by
  rw [PanelContent.toJson, Json.get?, get?_withDatasource _ _ (by decide)]
  rfl

theorem gridPos_toJson :
    (content.toJson id place datasource).get? "gridPos" = some place.toJson := by
  rw [PanelContent.toJson, Json.get?, get?_withDatasource _ _ (by decide)]
  rfl

theorem queryOf?_toJson :
    queryOf? (content.toJson id place datasource) = some (Json.joined content.query) := by
  have htargets : (content.toJson id place datasource).get? "targets" =
      some (.arr [content.target datasource]) := by
    rw [PanelContent.toJson, Json.get?, get?_withDatasource _ _ (by decide)]
    rfl
  have hexpr : (content.target datasource).get? "expr" = some (.str (Json.joined content.query)) := by
    rw [PanelContent.target, Json.get?, get?_withDatasource _ _ (by decide)]
    rfl
  rw [queryOf?, htargets]
  dsimp only
  rw [hexpr]

theorem axisLabelOf?_toJson {label : Text} (h : content.axisLabel = some label) :
    axisLabelOf? (content.toJson id place datasource) = if label = [] then none else some label := by
  have hfields : (content.toJson id place datasource).get? "fieldConfig" =
      some (.obj [("defaults", content.fieldDefaults), ("overrides", .arr [])]) := by
    rw [PanelContent.toJson, Json.get?, get?_withDatasource _ _ (by decide)]
    rfl
  rw [axisLabelOf?, valueAt?, hfields]
  rw [PanelContent.fieldDefaults, h]
  cases label with
  | nil => rfl
  | cons c label => rfl

end Content

end Document
end DashboardSynthesis
