import DashboardSynthesis.Proofs.Dashboard.Links
import DashboardSynthesis.Proofs.Dashboard.PanelIds

/-!
# Edits that check what they look at

Edits look at the panels of a document and at its links.  They take a value that is no object for one without
keys, and a value that is no list for one without items, so on a document of any shape they would come to
something.  `checkedEdit?` is the same edit, but it fails wherever it looks for a key in a value that is no
object or for items in a value that is no list.

The two agree on a sound document (`checkedEdit?_eq`): all that an edit looks at in the panels was checked
when the text was parsed, and edits keep it so.  The links were not checked, only that they are a list.  So
a run of edits fails exactly if it adds a link to a dashboard in which some link is no object
(`exists_edits?_iff`).
-/

namespace DashboardSynthesis
namespace Document

/-- What a look at a value gives, where it has to be an object. -/
def ask? {α : Type} (look : Json → α) (v : Json) : Option α := if v.isObject then some (look v) else none

/-- The items of the list under a key. -/
def listAt? (members : Json.Members) (key : Text) : Option (List Json) :=
  match members.get? key with
  | some (.arr items) => some items
  | _ => none

/-- The panels nested directly in a panel, where what counts as there has to be a list. -/
def checkedChildren? (panel : Json) : Option (List Json) := do
  match ← ask? (present? · "panels") panel with
  | none => some []
  | some (.arr nested) => some nested
  | some _ => none

/-- Panels, each followed by those nested directly in it. -/
def checkedWithChildren? (panels : List Json) : Option (List Json) :=
  (panels.mapM fun panel => (checkedChildren? panel).map (panel :: ·)).map List.flatten

/-- The panel that is added: its id and its datasource are looked for in all panels. -/
def checkedNewPanel? (d : Document) (content : PanelContent) : Option Json := do
  let panels ← listAt? d.members "panels"
  let all ← checkedWithChildren? panels
  let ids ← all.mapM (ask? integerId?)
  let datasource ← all.findSomeM? (ask? offeredDatasource?)
  pure (content.toJson ((ids.filterMap id).max?.getD 0 + 1) d.cursor.place datasource)

/-- The document after an edit that checks what it looks at. -/
def checkedEdit? (d : Document) : Edit → Option Document
  | .title title => some (d.setTitle title)
  | .link title url => do
    let links ← listAt? d.members "links"
    let others ← links.mapM (ask? (Option.guard fun link => !hasTitle title link))
    pure (d.withLinks (others.filterMap id ++ [linkTo title url]))
  | .panel content => do
    let panel ← d.checkedNewPanel? content
    let panels ← listAt? d.members "panels"
    pure { members := d.members.set "panels" (.arr (panels ++ [panel])), cursor := d.cursor.next }

/-- The document after edits that check what they look at, one behind the other. -/
def checkedEdits? (d : Document) : List Edit → Option Document
  | [] => some d
  | e :: es => (d.checkedEdit? e).bind fun d => d.checkedEdits? es

/-! ## Look-ups that do not fail -/

theorem mapM_eq_some_map {α β : Type} {f : α → Option β} {g : α → β} {as : List α}
    (h : ∀ a ∈ as, f a = some (g a)) : as.mapM f = some (as.map g) := by
  induction as with
  | nil => rfl
  | cons a as ih =>
    obtain ⟨ha, has⟩ := List.forall_mem_cons.1 h
    rw [List.mapM_cons, ha, ih has]
    rfl

/-- If one step fails, so do all steps together. -/
theorem mapM_eq_none {α β : Type} {f : α → Option β} {as : List α} (h : ∃ a ∈ as, f a = none) :
    as.mapM f = none := by
  induction as with
  | nil => exact absurd h (by simp)
  | cons a as ih =>
    rw [List.mapM_cons]
    rcases (List.exists_mem_cons_iff _ a as).1 h with ha | has
    · rw [ha]
      rfl
    · rw [ih has]
      cases f a <;> rfl

theorem findSomeM?_eq_some_findSome? {α β : Type} {f : α → Option (Option β)} {g : α → Option β}
    {as : List α} (h : ∀ a ∈ as, f a = some (g a)) : as.findSomeM? f = some (as.findSome? g) := by
  induction as with
  | nil => rfl
  | cons a as ih =>
    obtain ⟨ha, has⟩ := List.forall_mem_cons.1 h
    rw [List.findSomeM?_cons, ha, List.findSome?_cons]
    cases hg : g a with
    | none => exact ih has
    | some b => rfl

theorem ask?_of_isObject {α : Type} (look : Json → α) {v : Json} (h : v.isObject = true) :
    ask? look v = some (look v) := if_pos h

theorem ask?_of_not_isObject {α : Type} (look : Json → α) {v : Json} (h : ¬ v.isObject = true) :
    ask? look v = none := if_neg h

/-! ## Panels -/

variable {d : Document}

theorem children_eq_of_present? {panel : Json} {items : List Json}
    (h : present? panel "panels" = some (.arr items)) : children panel = items := by
  rw [children, h]
  rfl

theorem checkedChildren?_eq {panel : Json} (h : HasPanelShape panel) :
    checkedChildren? panel = some (children panel) := by
  rw [checkedChildren?, ask?_of_isObject _ h.isObject]
  cases hnested : present? panel "panels" with
  | none =>
    rw [children, hnested]
    rfl
  | some v =>
    obtain ⟨items, rfl, -⟩ := h.nested v hnested
    rw [children_eq_of_present? hnested]
    rfl

theorem checkedWithChildren?_eq {panels : List Json} (h : ∀ panel ∈ panels, HasPanelShape panel) :
    checkedWithChildren? panels = some (withChildren panels) := by
  have hpanel : ∀ panel ∈ panels, (checkedChildren? panel).map (panel :: ·) =
      some (panel :: children panel) := by
    intro panel hpanel
    rw [checkedChildren?_eq (h panel hpanel)]
    rfl
  rw [checkedWithChildren?, mapM_eq_some_map hpanel, Option.map_some, withChildren, List.flatMap_def]

/-- All panels of a document are objects, nested ones too. -/
theorem isObject_of_mem_withChildren {panels : List Json} (h : ∀ panel ∈ panels, HasPanelShape panel)
    {v : Json} (hv : v ∈ withChildren panels) : v.isObject = true := by
  obtain ⟨panel, hpanel, hv⟩ := List.mem_flatMap.1 hv
  rcases List.mem_cons.1 hv with rfl | hchild
  · exact (h _ hpanel).isObject
  · cases hnested : present? panel "panels" with
    | none =>
      rw [children, hnested] at hchild
      exact absurd hchild List.not_mem_nil
    | some w =>
      obtain ⟨items, rfl, hitems⟩ := (h panel hpanel).nested w hnested
      rw [children_eq_of_present? hnested] at hchild
      exact hitems v hchild

theorem IsSound.listAt?_panels (h : d.IsSound) : listAt? d.members "panels" = some d.panels := by
  rw [listAt?, h.panelsIsList]

theorem IsSound.listAt?_links (h : d.IsSound) : listAt? d.members "links" = some d.links := by
  rw [listAt?, h.linksIsList]

theorem checkedNewPanel?_eq (h : d.IsSound) (content : PanelContent) :
    d.checkedNewPanel? content = some (d.newPanel content) := by
  have hshape : ∀ panel ∈ d.panels, HasPanelShape panel :=
    fun panel hpanel => (h.panels panel hpanel).toHasPanelShape
  have hids : (withChildren d.panels).mapM (ask? integerId?) =
      some ((withChildren d.panels).map integerId?) :=
    mapM_eq_some_map fun v hv => ask?_of_isObject _ (isObject_of_mem_withChildren hshape hv)
  have hdatasource : (withChildren d.panels).findSomeM? (ask? offeredDatasource?) =
      some d.defaultDatasource? :=
    findSomeM?_eq_some_findSome? fun v hv => ask?_of_isObject _ (isObject_of_mem_withChildren hshape hv)
  have hid : (((withChildren d.panels).map integerId?).filterMap id).max?.getD 0 + 1 = d.nextPanelId := by
    rw [nextPanelId_eq_lastId, lastId, integerIds, List.filterMap_map]
    rfl
  simp only [checkedNewPanel?, h.listAt?_panels, checkedWithChildren?_eq hshape, hids, hdatasource, hid,
    Option.bind_eq_bind, Option.bind_some, Option.pure_def, newPanel]

/-! ## One edit -/

/-- A link is added if the links are objects, and only then. -/
theorem checkedEdit?_link_eq (h : d.IsSound) (title url : Text) :
    d.checkedEdit? (.link title url) = d.addLink? title url := by
  rw [checkedEdit?, h.listAt?_links]
  by_cases hlinks : d.LinksAreObjects
  · have hothers : d.links.mapM (ask? (Option.guard fun link => !hasTitle title link)) =
        some (d.links.map (Option.guard fun link => !hasTitle title link)) :=
      mapM_eq_some_map fun link hlink => ask?_of_isObject _ (hlinks link hlink)
    have hkept : (d.links.map (Option.guard fun link => !hasTitle title link)).filterMap id =
        d.links.filter fun link => !hasTitle title link := by
      rw [List.filterMap_map, Function.id_comp, List.filterMap_eq_filter]
    simp only [Option.bind_eq_bind, Option.bind_some, hothers, hkept, Option.pure_def, addLink?_eq hlinks]
  · have hlink : ∃ link ∈ d.links, ¬ link.isObject = true := by
      simpa [LinksAreObjects] using hlinks
    obtain ⟨link, hmem, hobject⟩ := hlink
    have hnone : d.links.mapM (ask? (Option.guard fun link => !hasTitle title link)) = none :=
      mapM_eq_none ⟨link, hmem, ask?_of_not_isObject _ hobject⟩
    simp only [Option.bind_eq_bind, Option.bind_some, hnone, Option.bind_none, addLink?_eq_none hlinks]

/-- **One edit.**  On a sound document the checks change nothing. -/
theorem checkedEdit?_eq (h : d.IsSound) (e : Edit) : d.checkedEdit? e = d.edit? e := by
  cases e with
  | title title => rfl
  | link title url => exact checkedEdit?_link_eq h title url
  | panel content =>
    rw [checkedEdit?, checkedNewPanel?_eq h, h.listAt?_panels]
    rfl

/-- On other documents they do: here a panel is added behind one that is no object. -/
example : ((⟨[("panels", .arr [.null])], ⟨0, 0⟩⟩ : Document).checkedEdit?
    (.panel { kind := .gauge, title := "p", query := "q" })).isNone = true := by decide

/-! ## A run -/

/-- **A run of edits.**  What comes of a sound document by edits that do not check is what comes of it by
edits that do. -/
theorem checkedEdits?_eq (h : d.IsSound) (es : List Edit) : d.checkedEdits? es = d.edits? es := by
  induction es generalizing d with
  | nil => rfl
  | cons e es ih =>
    rw [checkedEdits?, edits?, checkedEdit?_eq h]
    cases he : d.edit? e with
    | none => rfl
    | some d' => exact ih (h.edit he)

/-- A run fails exactly if it adds a link where some link is no object. -/
theorem exists_edits?_iff {es : List Edit} :
    (∃ final, d.edits? es = some final) ↔ d.LinksAreObjects ∨ addedLinks es = [] := by
  induction es generalizing d with
  | nil => exact iff_of_true ⟨d, rfl⟩ (Or.inr rfl)
  | cons e es ih =>
    cases e with
    | title title =>
      have hsame : (d.setTitle title).LinksAreObjects ↔ d.LinksAreObjects := by
        rw [LinksAreObjects, LinksAreObjects, links_setTitle]
      rw [← hsame]
      exact ih
    | panel content =>
      have hsame : (d.addPanel content).LinksAreObjects ↔ d.LinksAreObjects := by
        rw [LinksAreObjects, LinksAreObjects, links_addPanel]
      rw [← hsame]
      exact ih
    | link title url =>
      have hadded : addedLinks (.link title url :: es) ≠ [] := List.cons_ne_nil _ _
      rw [or_iff_left hadded]
      constructor
      · rintro ⟨final, hfinal⟩
        by_contra hlinks
        rw [edits?, edit?, addLink?_eq_none hlinks] at hfinal
        exact absurd hfinal (by simp)
      · intro hlinks
        exact ⟨_, edits?_eq hlinks _⟩

/-- **What was accepted can be edited**, but for its links.  No edit of an accepted text looks for a key or
for items where there are none, unless it adds a link and some link of the text is no object. -/
theorem checkedEdits?_of_parse {text : Text} (hparse : parse text = .ok d) (es : List Edit) :
    d.checkedEdits? es = d.edits? es ∧
      ((∃ final, d.checkedEdits? es = some final) ↔ d.LinksAreObjects ∨ addedLinks es = []) := by
  have hsame : d.checkedEdits? es = d.edits? es := checkedEdits?_eq (isSound_of_parse hparse) es
  refine ⟨hsame, ?_⟩
  rw [hsame]
  exact exists_edits?_iff

theorem checkedEdits?_of_parse_unusual :
    ∃ d, parse unusualSource = .ok d ∧ d.checkedEdits? someEdits = d.edits? someEdits ∧
      ((∃ final, d.checkedEdits? someEdits = some final) ↔
        d.LinksAreObjects ∨ addedLinks someEdits = []) := by
  have haccepted : (parse unusualSource).isOk = true := by decide +kernel
  obtain ⟨d, hd⟩ := exists_eq_ok_of_isOk haccepted
  exact ⟨d, hd, checkedEdits?_of_parse hd someEdits⟩

/-- A dashboard with a link that is no object. -/
def nullLinkSource : Text := "\x7b\"links\": [null]\x7d"

theorem checkedEdits?_nullLink :
    ∃ d, parse nullLinkSource = .ok d ∧ d.checkedEdits? [.link "t" "u"] = none := by
  have hfails : (parse nullLinkSource).toOption.any
      (fun d => (d.checkedEdits? [.link "t" "u"]).isNone) = true := by decide +kernel
  obtain ⟨d, hd, hnone⟩ := (Option.any_eq_true _ _).1 hfails
  exact ⟨d, eq_ok_of_toOption_eq_some hd, Option.isNone_iff_eq_none.1 hnone⟩

end Document
end DashboardSynthesis
