import DashboardSynthesis.Proofs.Dashboard.Runs

/-!
# The datasource of generated panels

A generated panel inherits its datasource from the panels that are there when it is added: from the first one
that has a datasource and is no row, where each panel is followed by those nested directly in it
(`IsInherited`).  Among those panels are the ones that have been generated before, but they offer nothing new:
they stand behind the panels of the template, and carry what these offer, if they offer anything.  So all
panels that a run of edits adds carry the datasource that the template offers, on themselves and on their
targets, and the next one would inherit it too (`datasource_edits`).
-/

namespace DashboardSynthesis
namespace Document

/-- A panel offers a datasource to others: it is no row, and what it has for a datasource counts as there. -/
structure Offers (panel v : Json) : Prop where
  notRow : panel.get? "type" ≠ some (.str "row")
  datasource : panel.get? "datasource" = some v
  isTruthy : v.isTruthy = true

/-- What is inherited from panels: the first datasource that is offered by one of them or of those nested
directly in them, in order, and nothing if none is offered. -/
def IsInherited (panels : List Json) : Option Json → Prop
  | some v => ∃ before panel after, withChildren panels = before ++ panel :: after ∧ Offers panel v ∧
      ∀ earlier ∈ before, ∀ w, ¬ Offers earlier w
  | none => ∀ panel ∈ withChildren panels, ∀ v, ¬ Offers panel v

/-- A panel carries a datasource, as each of its targets does.  If there is none to carry, neither the panel
nor any of its targets has a member of that name. -/
structure Carries (panel : Json) (datasource : Option Json) : Prop where
  own : panel.get? "datasource" = datasource
  targets : ∃ targets, panel.get? "targets" = some (.arr targets) ∧ targets ≠ [] ∧
    ∀ target ∈ targets, target.get? "datasource" = datasource

/-! ## What is offered -/

theorem present?_eq_some_iff {panel v : Json} {key : Text} :
    present? panel key = some v ↔ panel.get? key = some v ∧ v.isTruthy = true := by
  rw [present?, Option.filter_eq_some_iff]

theorem offeredDatasource?_eq_some_iff {panel v : Json} :
    offeredDatasource? panel = some v ↔ Offers panel v := by
  have hoffers : panel.get? "type" ≠ some (.str "row") →
      (present? panel "datasource" = some v ↔ Offers panel v) := by
    intro hkind
    rw [present?_eq_some_iff]
    exact ⟨fun ⟨hget, htruthy⟩ => ⟨hkind, hget, htruthy⟩, fun h => ⟨h.datasource, h.isTruthy⟩⟩
  unfold offeredDatasource?
  split
  · next kind hkind =>
    split_ifs with hrow
    · rw [hrow] at hkind
      exact iff_of_false (by simp) fun h => h.notRow hkind
    · exact hoffers fun h => hrow (Json.str.inj (Option.some_inj.1 (hkind.symm.trans h)))
  · next hother => exact hoffers (hother _)

theorem offeredDatasource?_eq_none_iff {panel : Json} :
    offeredDatasource? panel = none ↔ ∀ v, ¬ Offers panel v := by
  simp only [Option.eq_none_iff_forall_ne_some, ne_eq, offeredDatasource?_eq_some_iff]

/-- The datasource that is looked up for a new panel is the one that is inherited. -/
theorem isInherited_iff {panels : List Json} {datasource : Option Json} :
    IsInherited panels datasource ↔
      (withChildren panels).findSome? offeredDatasource? = datasource := by
  cases datasource with
  | none =>
    rw [List.findSome?_eq_none_iff]
    exact forall₂_congr fun panel _ => offeredDatasource?_eq_none_iff.symm
  | some v =>
    rw [List.findSome?_eq_some_iff]
    simp only [offeredDatasource?_eq_some_iff, offeredDatasource?_eq_none_iff]
    rfl

/-! ## What is carried -/

section Content

variable (content : PanelContent) (id : ℤ) (place : Grid.Place) (datasource : Option Json)

theorem datasource_toJson : (content.toJson id place datasource).get? "datasource" = datasource := by
  cases datasource <;> rfl

theorem targets_toJson :
    (content.toJson id place datasource).get? "targets" = some (.arr [content.target datasource]) := by
  rw [PanelContent.toJson, Json.get?, get?_withDatasource _ _ (by decide)]
  rfl

theorem datasource_target : (content.target datasource).get? "datasource" = datasource := by
  cases datasource <;> rfl

theorem carries_toJson : Carries (content.toJson id place datasource) datasource := by
  refine ⟨datasource_toJson content id place datasource, _, targets_toJson content id place datasource,
    List.cons_ne_nil _ _, ?_⟩
  intro target htarget
  rw [List.mem_singleton.1 htarget]
  exact datasource_target content datasource

end Content

theorem carries_generated (datasource : Option Json) (id : ℤ) (c : Grid.Cursor)
    (contents : List PanelContent) :
    ∀ panel ∈ generated datasource id c contents, Carries panel datasource :=
  forall_generated_iff.2 fun _ _ _ => carries_toJson _ _ _ _

/-! ## A run of edits -/

theorem defaultDatasource?_edit (d : Document) (e : Edit) :
    (d.edit e).defaultDatasource? = d.defaultDatasource? := by
  rcases edit_cases d e with ⟨content, -, hedit⟩ | ⟨-, hsame⟩
  · rw [hedit]
    exact defaultDatasource?_addPanel d content
  · exact hsame.defaultDatasource?

/-- No run of edits changes the datasource that the next panel inherits. -/
theorem defaultDatasource?_edits (d : Document) (es : List Edit) :
    (d.edits es).defaultDatasource? = d.defaultDatasource? := by
  induction es generalizing d with
  | nil => rfl
  | cons e es ih => exact (ih (d.edit e)).trans (defaultDatasource?_edit d e)

/-- **One datasource.**  There is one that an accepted dashboard offers, or none, such that whatever edits the
dashboard goes through, the panels that are added carry that one, and it is still what the next panel would
inherit. -/
theorem datasource_edits {text : Text} {members : Json.Members} {d : Document}
    (hread : Json.read text = .ok (.obj members)) (hparse : parse text = .ok d) :
    ∃ datasource, IsInherited (panelsOf members) datasource ∧ ∀ es,
      (∃ added, (d.edits es).panels = panelsOf members ++ added ∧
        List.Forall₂ (fun (content : PanelContent) panel =>
          ∃ id place offered, panel = content.toJson id place offered) (contentsOf es) added ∧
        ∀ panel ∈ added, Carries panel datasource) ∧
      IsInherited (d.edits es).panels datasource := by
  obtain ⟨hpanels, -⟩ := of_parse hread hparse
  refine ⟨d.defaultDatasource?, ?_, fun es => ⟨⟨generated d.defaultDatasource? d.nextPanelId d.cursor
    (contentsOf es), ?_, forall₂_generated _ _ _ _, carries_generated _ _ _ _⟩, ?_⟩⟩
  · rw [isInherited_iff, defaultDatasource?, hpanels]
  · rw [panels_edits, hpanels]
  · rw [isInherited_iff]
    exact defaultDatasource?_edits d es

/-- A dashboard with datasources that are not offered: one is that of a row, one counts as absent.  The first
one that is offered is that of a panel nested in the row. -/
def offeringSource : Text :=
  "\x7b\"panels\": [\x7b\"type\": \"row\", \"datasource\": \"r\", \"panels\": [" ++
    "\x7b\"datasource\": \"\"\x7d, \x7b\"type\": [], \"datasource\": \x7b\"uid\": \"p\"\x7d\x7d]\x7d, " ++
    "\x7b\"datasource\": \"q\"\x7d]\x7d"

theorem datasource_edits_nested :
    ∃ members d, Json.read offeringSource = .ok (.obj members) ∧ parse offeringSource = .ok d ∧
      ∃ v : Json, v.print (.ofIndent none) 0 = "\x7b\"uid\": \"p\"\x7d" ∧
        IsInherited (panelsOf members) (some v) ∧ ∃ added,
          (d.edits (someEdits ++ someEdits)).panels = panelsOf members ++ added ∧ added.length = 2 ∧
          (∀ panel ∈ added, Carries panel (some v)) ∧
          IsInherited (d.edits (someEdits ++ someEdits)).panels (some v) := by
  have hoffered : ((parse offeringSource).toOption.bind fun d =>
      d.defaultDatasource?.map (Json.print (.ofIndent none) 0)) =
        some "\x7b\"uid\": \"p\"\x7d" := by decide +kernel
  obtain ⟨d, hd, hprint⟩ := Option.bind_eq_some_iff.1 hoffered
  obtain ⟨v, hv, huid⟩ := Option.map_eq_some_iff.1 hprint
  have hparse := eq_ok_of_toOption_eq_some hd
  obtain ⟨members, hread, -⟩ := parse_eq_ok_iff.1 hparse
  obtain ⟨datasource, hinherited, hruns⟩ := datasource_edits hread hparse
  obtain ⟨⟨added, hadded, hcontents, hcarry⟩, hstill⟩ := hruns (someEdits ++ someEdits)
  -- what is inherited is determined by the panels
  obtain rfl : some v = datasource := by
    rw [← isInherited_iff.1 hinherited, ← hv, defaultDatasource?, (of_parse hread hparse).1]
  exact ⟨members, d, hread, hparse, v, huid, hinherited, added, hadded, hcontents.length_eq.symm, hcarry,
    hstill⟩

end Document
end DashboardSynthesis
