import DashboardSynthesis.Proofs.Dashboard.Edits
import DashboardSynthesis.Proofs.Json.Joining
import DashboardSynthesis.Proofs.Json.Surrogates

/-!
# Documents without surrogates

A document keeps what it was parsed with, so a surrogate in it stays, unless the member that holds it is
replaced.  A title and a list of links are replaced (`isScalar_setTitle_iff`, `isScalar_addLink_iff`).  A
generated panel replaces nothing, and brings no surrogate if its content has none; its datasource is a part of
the document already (`isScalar_addPanel_iff`).
-/

namespace DashboardSynthesis

open Text

/-! ## Replacing a member -/

namespace Json

variable {members : Members} {key : Text} {v : Json}

theorem Members.mem_set_iff (hkeys : members.keys.Nodup) {m : Text × Json} :
    m ∈ members.set key v ↔ m = (key, v) ∨ m ∈ members ∧ m.1 ≠ key := by
  induction members with
  | nil => simp [set]
  | cons first members ih =>
    obtain ⟨hnot, hrest⟩ := List.nodup_cons.1 hkeys
    rw [set]
    split_ifs with hfirst
    · -- the other members have other keys
      have hothers : m ∈ members → m.1 ≠ key := fun hm heq =>
        hnot (List.mem_map.2 ⟨m, hm, heq.trans hfirst.symm⟩)
      have hreplaced : m = first → m.1 = key := fun heq => heq ▸ hfirst
      grind
    · rw [List.mem_cons, List.mem_cons, ih hrest]
      have hkept : m = first → m.1 ≠ key := fun heq => heq ▸ hfirst
      grind

/-- The member that is replaced does not count. -/
theorem isScalar_set_iff (hkeys : members.keys.Nodup) :
    (Json.obj (members.set key v)).IsScalar ↔
      (key.IsScalar ∧ v.IsScalar) ∧ ∀ m ∈ members, m.1 ≠ key → m.1.IsScalar ∧ m.2.IsScalar := by
  simp only [isScalar_obj_iff, Members.mem_set_iff hkeys, forall_eq_or_imp, and_imp]

instance : DecidablePred IsScalar := fun v => decidable_of_iff _ (isScalar_print_iff .compact 0 v)

end Json

/-! ## Generated panels -/

namespace PanelContent

variable {content : PanelContent} {datasource : Option Json} {members : Json.Members}

/-- Nothing that the panel shows holds a surrogate. -/
structure IsScalar (content : PanelContent) : Prop where
  title : content.title.IsScalar
  query : content.query.IsScalar
  axisLabel : ∀ label ∈ content.axisLabel, label.IsScalar

theorem isScalar_withDatasource (h : (Json.obj members).IsScalar)
    (hdatasource : ∀ v ∈ datasource, v.IsScalar) :
    (Json.obj (withDatasource members datasource)).IsScalar := by
  cases datasource with
  | none => exact h
  | some v =>
    rw [Json.isScalar_obj_iff] at *
    exact List.forall_mem_append.2 ⟨h, by simp [hdatasource v rfl]⟩

theorem isScalar_fieldDefaults (h : content.IsScalar) : content.fieldDefaults.IsScalar := by
  rw [fieldDefaults.eq_def]
  split
  · simp
  · simp
  · next label _ hlabel => simp [h.axisLabel label hlabel]

theorem isScalar_toJson (h : content.IsScalar) (hdatasource : ∀ v ∈ datasource, v.IsScalar) (id : ℤ)
    (place : Grid.Place) : (content.toJson id place datasource).IsScalar := by
  have htarget : (content.target datasource).IsScalar :=
    isScalar_withDatasource (by simp [Json.joined_of_isScalar h.query, h.query]) hdatasource
  have hkind : content.kind.name.IsScalar := by cases content.kind <;> exact isScalar_ofString _
  refine isScalar_withDatasource ?_ hdatasource
  simp [Json.joined_of_isScalar h.title, h.title, hkind, htarget, isScalar_fieldDefaults h, Grid.Place.toJson]

end PanelContent

namespace Document

variable {d d' : Document} {content : PanelContent} {contents : List PanelContent}

/-- No key and no text in the document holds a surrogate. -/
def IsScalar (d : Document) : Prop := (Json.obj d.members).IsScalar

/-- **A document is stored as it is written** exactly if it holds no surrogate. -/
theorem isScalar_of_serialize {indent : Option ℤ} {text : Text} (h : d.serialize indent = .ok text) :
    text.IsScalar ↔ d.IsScalar := by
  rw [serialize] at h
  split_ifs at h
  split at h
  · next printed hprint =>
    rw [Json.print?] at hprint
    split_ifs at hprint
    rw [← Except.ok.inj h, ← Option.some_inj.1 hprint]
    exact Json.isScalar_print_iff _ 0 _
  · exact absurd h (by simp)

/-- A generated panel changes nothing if its content holds no surrogate. -/
theorem isScalar_addPanel_iff (hd : d.IsSound) (hcontent : content.IsScalar) :
    (d.addPanel content).IsScalar ↔ d.IsScalar := by
  have hnew (hpanels : (Json.arr d.panels).IsScalar) : (d.newPanel content).IsScalar :=
    PanelContent.isScalar_toJson hcontent (fun _ hv => each_defaultDatasource? hpanels.2 hv) _ _
  have hlist : (Json.arr (d.panels ++ [d.newPanel content])).IsScalar ↔ (Json.arr d.panels).IsScalar := by
    refine ⟨fun h => ?_, fun h => ?_⟩
    · rw [Json.isScalar_arr_iff, List.forall_mem_append] at h
      exact Json.isScalar_arr_iff.2 h.1
    · rw [Json.isScalar_arr_iff, List.forall_mem_append]
      exact ⟨Json.isScalar_arr_iff.1 h, by simp [hnew h]⟩
  have hbefore : (Json.obj (d.members.set "panels" (.arr d.panels))).IsScalar ↔ d.IsScalar := by
    rw [Json.Members.set_of_get? hd.panelsIsList, IsScalar]
  rw [← hbefore, IsScalar, addPanel, Json.isScalar_set_iff hd.isNormal.1,
    Json.isScalar_set_iff hd.isNormal.1, hlist]

theorem isScalar_foldl_addPanel_iff (hd : d.IsSound) (hcontents : ∀ content ∈ contents, content.IsScalar) :
    (contents.foldl addPanel d).IsScalar ↔ d.IsScalar := by
  induction contents generalizing d with
  | nil => rfl
  | cons content contents ih =>
    obtain ⟨hcontent, hrest⟩ := List.forall_mem_cons.1 hcontents
    rw [List.foldl_cons, ih (hd.addPanel content) hrest, isScalar_addPanel_iff hd hcontent]

/-- The title that is replaced does not count. -/
theorem isScalar_setTitle_iff (hd : d.IsSound) {title : Text} (htitle : title.IsScalar) :
    (d.setTitle title).IsScalar ↔
      ∀ m ∈ d.members, m.1 ≠ ("title" : Text) → m.1.IsScalar ∧ m.2.IsScalar := by
  refine (Json.isScalar_set_iff hd.isNormal.1).trans (and_iff_right ⟨isScalar_ofString _, ?_⟩)
  exact htitle

theorem isScalar_linkTo {title url : Text} (htitle : title.IsScalar) (hurl : url.IsScalar) :
    (linkTo title url).IsScalar := by
  simp [linkTo, htitle, hurl]

/-- Links that are replaced do not count. -/
theorem isScalar_addLink_iff (hd : d.IsSound) {title url : Text} (htitle : title.IsScalar)
    (hurl : url.IsScalar) (h : d.addLink? title url = some d') :
    d'.IsScalar ↔ (∀ link ∈ d.links, hasTitle title link = false → link.IsScalar) ∧
      ∀ m ∈ d.members, m.1 ≠ ("links" : Text) → m.1.IsScalar ∧ m.2.IsScalar := by
  rw [addLink?] at h
  split_ifs at h
  rw [← Option.some_inj.1 h, IsScalar, Json.isScalar_set_iff hd.isNormal.1]
  simp [isScalar_linkTo htitle hurl, or_imp, forall_and]

end Document
end DashboardSynthesis
