import DashboardSynthesis.Proofs.Dashboard.Placement

/-!
# Runs of edits

An edit that fails leaves the document as it is, so editing goes on behind it, and a document can be taken
through any run of edits (`edits`).  Where none of them fails this is what `edits?` gives
(`edits_of_edits?`).

A title and a link do not touch the panels, nor what the next panel depends on, so the panels after a run
are those of the panel edits alone: `panels_edits` gives them, and `getElem?_generated` each of them by its
number.
-/

namespace DashboardSynthesis
namespace Document

/-- The document after an edit; one that fails leaves it as it is. -/
def edit (d : Document) (e : Edit) : Document := (d.edit? e).getD d

/-- The document after edits, one behind the other. -/
def edits (d : Document) (es : List Edit) : Document := es.foldl edit d

/-- What the panel shows that an edit adds. -/
def Edit.content? : Edit → Option PanelContent
  | .panel content => some content
  | .title _ | .link _ _ => none

/-- What the panels show that edits add, in order. -/
def contentsOf (es : List Edit) : List PanelContent := es.filterMap Edit.content?

variable {d d' : Document} {es : List Edit}

theorem edits_of_edits? (h : d.edits? es = some d') : d.edits es = d' := by
  induction es generalizing d with
  | nil => exact Option.some_inj.1 h
  | cons e es ih =>
    obtain ⟨d₁, he, hes⟩ := Option.bind_eq_some_iff.1 h
    have hedit : d.edit e = d₁ := by rw [edit, he, Option.getD_some]
    rw [edits, List.foldl_cons, hedit]
    exact ih hes

/-! ## The start -/

/-- What an accepted dashboard starts with: its own panels, and a cursor on the row below them. -/
theorem of_parse {text : Text} {members : Json.Members} (hread : Json.read text = .ok (.obj members))
    (hparse : parse text = .ok d) :
    d.panels = panelsOf members ∧
      ∃ y, contentBottom 0 (panelsOf members) = .ok y ∧ d.cursor = ⟨0, y⟩ := by
  obtain ⟨members', hread', hd⟩ := parse_eq_ok_iff.1 hparse
  obtain ⟨-, y, hy, rfl⟩ := ofMembers_eq_ok_iff.1 hd
  obtain rfl := Json.obj.inj (Except.ok.inj (hread.symm.trans hread'))
  exact ⟨panelsOf_complete members, y, hy, rfl⟩

/-! ## One edit -/

/-- The document differs in nothing that the next panel depends on. -/
structure HasSamePanels (d d' : Document) : Prop where
  panels : d'.panels = d.panels
  cursor : d'.cursor = d.cursor

theorem HasSamePanels.nextPanelId (h : HasSamePanels d d') : d'.nextPanelId = d.nextPanelId := by
  rw [Document.nextPanelId, Document.nextPanelId, h.panels]

theorem HasSamePanels.defaultDatasource? (h : HasSamePanels d d') :
    d'.defaultDatasource? = d.defaultDatasource? := by
  rw [Document.defaultDatasource?, Document.defaultDatasource?, h.panels]

/-- A member that is not the list of panels may be set to anything. -/
theorem hasSamePanels_set {key : Text} (h : ("panels" : Text) ≠ key) (v : Json) :
    HasSamePanels d { d with members := d.members.set key v } := by
  refine ⟨?_, rfl⟩
  rw [panels, panelsOf, Json.Members.get?_set_of_ne _ v h]
  rfl

theorem hasSamePanels_addLink {title url : Text} (h : d.addLink? title url = some d') :
    HasSamePanels d d' := by
  rw [addLink?] at h
  split_ifs at h
  rw [← Option.some_inj.1 h]
  exact hasSamePanels_set (by decide) _

/-- **One edit.**  It adds a panel, or it does not touch the panels. -/
theorem edit_cases (d : Document) (e : Edit) :
    (∃ content, e = .panel content ∧ d.edit e = d.addPanel content) ∨
      e.content? = none ∧ HasSamePanels d (d.edit e) := by
  cases e with
  | panel content => exact .inl ⟨content, rfl, rfl⟩
  | title title => exact .inr ⟨rfl, hasSamePanels_set (by decide) _⟩
  | link title url =>
    refine .inr ⟨rfl, ?_⟩
    rw [edit, edit?]
    cases hlink : d.addLink? title url with
    | none => exact ⟨rfl, rfl⟩
    | some d' => exact hasSamePanels_addLink hlink

/-! ## A run -/

/-- **A run of edits.**  Behind the panels that are there come those that the run adds, whatever else it
does. -/
theorem panels_edits (d : Document) (es : List Edit) :
    (d.edits es).panels =
      d.panels ++ generated d.defaultDatasource? d.nextPanelId d.cursor (contentsOf es) := by
  induction es generalizing d with
  | nil => exact (List.append_nil _).symm
  | cons e es ih =>
    rw [edits, List.foldl_cons]
    refine (ih (d.edit e)).trans ?_
    rcases edit_cases d e with ⟨content, rfl, hedit⟩ | ⟨hcontent, hsame⟩
    · rw [hedit, panels_addPanel, nextPanelId_addPanel, defaultDatasource?_addPanel, List.append_assoc]
      rfl
    · rw [hsame.panels, hsame.nextPanelId, hsame.defaultDatasource?, hsame.cursor, contentsOf, contentsOf,
        List.filterMap_cons_none hcontent]

/-- The panel of a number among those that are added. -/
theorem getElem?_generated (datasource : Option Json) (id : ℤ) (c : Grid.Cursor)
    (contents : List PanelContent) (k : ℕ) :
    (generated datasource id c contents)[k]? = contents[k]?.map fun content =>
      content.toJson (id + k) (Grid.Cursor.next^[k] c).place datasource := by
  induction contents generalizing id c k with
  | nil => rfl
  | cons content contents ih =>
    rw [generated]
    cases k with
    | zero =>
      rw [List.getElem?_cons_zero, List.getElem?_cons_zero, Option.map_some, Nat.cast_zero, add_zero]
      rfl
    | succ k =>
      rw [List.getElem?_cons_succ, List.getElem?_cons_succ, ih, Nat.cast_succ,
        Function.iterate_succ_apply, add_assoc, add_comm (1 : ℤ) k]

end Document
end DashboardSynthesis
