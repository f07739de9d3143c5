import DashboardSynthesis.Dashboard.Document
import DashboardSynthesis.Proofs.Json.Reading

/-!
# Which dashboards are accepted

`IsAcceptable` says of the members of a dashboard, in one sentence for each thing that is checked, when
`Document.ofMembers` makes a document of them, and `exists_ofMembers_iff` is that it does so exactly
then.  The checks go through the panels in order and stop at the first one that fails; none of this
shows in the condition, for a dashboard is acceptable if each of its panels is.
-/

namespace DashboardSynthesis
namespace Document

/-- A panel is an object, its grid position is an object or counts as absent, and its nested panels are
a list of objects or count as absent. -/
structure HasPanelShape (panel : Json) : Prop where
  isObject : panel.isObject = true
  grid : ∀ v, present? panel "gridPos" = some v → v.isObject = true
  nested : ∀ v, present? panel "panels" = some v →
    ∃ items, v = .arr items ∧ ∀ item ∈ items, item.isObject = true

/-- A panel as it has to be: of the right shape, and with an integer bottom edge. -/
structure PanelIsAcceptable (panel : Json) : Prop extends HasPanelShape panel where
  edge : ∃ y, bottom panel = .ok y

/-- The panels and the links of a dashboard, with nothing where they are absent. -/
def complete (members : Json.Members) : Json.Members :=
  (members.setDefault "panels" (.arr [])).setDefault "links" (.arr [])

/-- A dashboard as it has to be. -/
structure IsAcceptable (members : Json.Members) : Prop where
  panelsIsList : isListOrAbsent members "panels" = true
  linksIsList : isListOrAbsent members "links" = true
  panels : ∀ panel ∈ panelsOf members, PanelIsAcceptable panel

/-! ## Panels -/

theorem checkPanel_eq_ok_iff (index : ℕ) {panel : Json} :
    checkPanel index panel = .ok () ↔ HasPanelShape panel := by
  rw [checkPanel]
  split_ifs with hobject hgrid
  · have hobject' : ¬ panel.isObject = true := by simpa using hobject
    exact ⟨fun h => absurd h (by simp), fun h => absurd h.isObject hobject'⟩
  · refine ⟨fun h => absurd h (by simp), fun h => ?_⟩
    cases hv : present? panel "gridPos" with
    | none => simp [hv] at hgrid
    | some v => simp [hv, h.grid v hv] at hgrid
  · have hobject' : panel.isObject = true := by simpa using hobject
    have hgrid' : ∀ v, present? panel "gridPos" = some v → v.isObject = true := by
      intro v hv
      simpa [hv] using hgrid
    split
    · next hnone =>
      refine ⟨fun _ => ⟨hobject', hgrid', fun v hv => ?_⟩, fun _ => rfl⟩
      rw [hnone] at hv
      exact absurd hv (by simp)
    · next items hsome =>
      split_ifs with hall
      · refine ⟨fun _ => ⟨hobject', hgrid', fun v hv => ?_⟩, fun _ => rfl⟩
        rw [hsome, Option.some_inj] at hv
        exact ⟨items, hv.symm, List.all_eq_true.1 hall⟩
      · refine ⟨fun h => absurd h (by simp), fun h => ?_⟩
        obtain ⟨items', heq, hitems⟩ := h.nested _ hsome
        rw [Json.arr.inj heq] at hall
        exact absurd (List.all_eq_true.2 hitems) hall
    · next v hother hsome =>
      refine ⟨fun h => absurd h (by simp), fun h => ?_⟩
      obtain ⟨items, rfl, -⟩ := h.nested _ hsome
      exact absurd rfl (hother items)

theorem checkPanels_eq_ok_iff (index : ℕ) {panels : List Json} :
    checkPanels index panels = .ok () ↔ ∀ panel ∈ panels, HasPanelShape panel := by
  induction panels generalizing index with
  | nil => exact ⟨fun _ _ h => absurd h List.not_mem_nil, fun _ => rfl⟩
  | cons panel panels ih =>
    rw [List.forall_mem_cons, ← ih (index + 1), ← checkPanel_eq_ok_iff index]
    constructor
    · intro h
      obtain ⟨⟨⟩, hpanel, hrest⟩ := exists_of_bind_eq_ok h
      exact ⟨hpanel, hrest⟩
    · rintro ⟨hpanel, hrest⟩
      rw [checkPanels, hpanel]
      exact hrest

/-- The greatest bottom edge exists if each panel has one. -/
theorem exists_contentBottom_iff (least : ℤ) {panels : List Json} :
    (∃ y, contentBottom least panels = .ok y) ↔ ∀ panel ∈ panels, ∃ y, bottom panel = .ok y := by
  induction panels generalizing least with
  | nil => exact ⟨fun _ _ h => absurd h List.not_mem_nil, fun _ => ⟨least, rfl⟩⟩
  | cons panel panels ih =>
    rw [List.forall_mem_cons]
    constructor
    · rintro ⟨y, h⟩
      obtain ⟨edge, hedge, hrest⟩ := exists_of_bind_eq_ok h
      exact ⟨⟨edge, hedge⟩, (ih _).1 ⟨y, hrest⟩⟩
    · rintro ⟨⟨edge, hedge⟩, hrest⟩
      obtain ⟨y, hy⟩ := (ih (max least edge)).2 hrest
      refine ⟨y, ?_⟩
      rw [contentBottom, hedge]
      exact hy

/-! ## Absent lists -/

theorem get?_complete_panels (members : Json.Members) :
    (complete members).get? "panels" = some ((members.get? "panels").getD (.arr [])) := by
  rw [complete, Json.Members.get?_setDefault_of_ne _ _ (by decide),
    Json.Members.get?_setDefault_self]

theorem get?_complete_links (members : Json.Members) :
    (complete members).get? "links" = some ((members.get? "links").getD (.arr [])) := by
  rw [complete, Json.Members.get?_setDefault_self,
    Json.Members.get?_setDefault_of_ne _ _ (by decide)]

theorem panelsOf_complete (members : Json.Members) : panelsOf (complete members) = panelsOf members := by
  rw [panelsOf, panelsOf, get?_complete_panels, Option.getD_some]
  cases members.get? "panels" <;> rfl

theorem getD_of_isListOrAbsent {members : Json.Members} {key : Text}
    (h : isListOrAbsent members key = true) :
    (members.get? key).getD (.arr []) = .arr ((members.get? key).getD .null).items := by
  rw [isListOrAbsent] at h
  split at h
  · next hnone => rw [hnone]; rfl
  · next hsome => rw [hsome]; rfl
  · exact absurd h (by simp)

/-- Where both lists are there, nothing is added. -/
theorem complete_of_some {members : Json.Members} {panels links : Json}
    (hpanels : members.get? "panels" = some panels) (hlinks : members.get? "links" = some links) :
    complete members = members := by
  rw [complete, Json.Members.setDefault_of_some hpanels, Json.Members.setDefault_of_some hlinks]

/-! ## Documents -/

theorem ofMembers_of_not_lists {members : Json.Members}
    (h : ¬ (isListOrAbsent members "panels" = true ∧ isListOrAbsent members "links" = true)) :
    ofMembers members = .error (.refused .notLists) := by
  have hlists : (!(isListOrAbsent members "panels" && isListOrAbsent members "links")) = true := by
    rw [Bool.not_eq_true', ← Bool.not_eq_true, Bool.and_eq_true]
    exact h
  unfold ofMembers
  rw [if_pos hlists]
  rfl

theorem ofMembers_of_lists {members : Json.Members} (h1 : isListOrAbsent members "panels" = true)
    (h2 : isListOrAbsent members "links" = true) :
    ofMembers members =
      match checkPanels 0 (panelsOf members) with
      | .error why => .error (.refused why)
      | .ok () =>
        match contentBottom 0 (panelsOf members) with
        | .error .infinite => .error .infiniteGrid
        | .error why => .error (.refused (.gridNotInteger why))
        | .ok y => .ok ⟨complete members, ⟨0, y⟩⟩ := by
  have hlists : ¬ (!(isListOrAbsent members "panels" && isListOrAbsent members "links")) = true := by
    simp [h1, h2]
  unfold ofMembers
  rw [if_neg hlists, ← panelsOf_complete]
  rfl

/-- **Acceptance.**  A dashboard is made a document of exactly if it is acceptable. -/
theorem ofMembers_eq_ok_iff {members : Json.Members} {d : Document} :
    ofMembers members = .ok d ↔ IsAcceptable members ∧
      ∃ y, contentBottom 0 (panelsOf members) = .ok y ∧ d = ⟨complete members, ⟨0, y⟩⟩ := by
  constructor
  · intro h
    by_cases hlists : isListOrAbsent members "panels" = true ∧ isListOrAbsent members "links" = true
    · rw [ofMembers_of_lists hlists.1 hlists.2] at h
      split at h
      · exact absurd h (by simp)
      · next hshape =>
        split at h
        · exact absurd h (by simp)
        · exact absurd h (by simp)
        · next y hbottom =>
          have hedges := (exists_contentBottom_iff 0).1 ⟨y, hbottom⟩
          refine ⟨⟨hlists.1, hlists.2, fun panel hpanel => ?_⟩, y, hbottom, (Except.ok.inj h).symm⟩
          exact ⟨(checkPanels_eq_ok_iff 0).1 hshape panel hpanel, hedges panel hpanel⟩
    · rw [ofMembers_of_not_lists hlists] at h
      exact absurd h (by simp)
  · rintro ⟨⟨h1, h2, hpanels⟩, y, hbottom, rfl⟩
    have hshape : checkPanels 0 (panelsOf members) = .ok () :=
      (checkPanels_eq_ok_iff 0).2 fun panel hpanel => (hpanels panel hpanel).toHasPanelShape
    rw [ofMembers_of_lists h1 h2, hshape, hbottom]

theorem exists_ofMembers_iff {members : Json.Members} :
    (∃ d, ofMembers members = .ok d) ↔ IsAcceptable members := by
  constructor
  · rintro ⟨d, hd⟩
    exact (ofMembers_eq_ok_iff.1 hd).1
  · intro h
    obtain ⟨y, hy⟩ := (exists_contentBottom_iff 0).2 fun panel hpanel =>
      (h.panels panel hpanel).edge
    exact ⟨_, ofMembers_eq_ok_iff.2 ⟨h, y, hy, rfl⟩⟩

/-- A document is parsed from the text of an object that is acceptable. -/
theorem parse_eq_ok_iff {text : Text} {d : Document} :
    parse text = .ok d ↔ ∃ members, Json.read text = .ok (.obj members) ∧ ofMembers members = .ok d := by
  rw [parse]
  split
  · next h => exact ⟨fun h' => absurd h' (by simp), fun ⟨_, h', _⟩ => by rw [h] at h'; simp at h'⟩
  · next h => exact ⟨fun h' => absurd h' (by simp), fun ⟨_, h', _⟩ => by rw [h] at h'; simp at h'⟩
  · next h => exact ⟨fun h' => absurd h' (by simp), fun ⟨_, h', _⟩ => by rw [h] at h'; simp at h'⟩
  · next members h =>
    refine ⟨fun h' => ⟨members, h, h'⟩, ?_⟩
    rintro ⟨members', h', hd⟩
    rw [h, Except.ok.injEq, Json.obj.injEq] at h'
    rw [h']
    exact hd
  · next v hv h =>
    refine ⟨fun h' => absurd h' (by simp), ?_⟩
    rintro ⟨members, h', -⟩
    rw [h, Except.ok.injEq] at h'
    exact absurd h' (hv members)

end Document
end DashboardSynthesis
