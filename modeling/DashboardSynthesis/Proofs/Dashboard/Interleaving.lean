import DashboardSynthesis.Proofs.Dashboard.Links

/-!
# Edits of different kinds

There are three kinds of edits, and each has a part of the document to itself: the title, the links, and the
panels with the cursor.  What an edit puts there depends on this part alone, so two edits of different kinds
may change places (`edit_comm`).

The order in which their keys stand could tell which of them came first, but an accepted document has its
links and its panels from the start.  Only a title can be new, and it goes behind the keys that are there.

So what comes of a run of edits depends on the edits of each kind in their order, and not on how the kinds
are interleaved (`edits?_of_interleaved`).
-/

namespace DashboardSynthesis

namespace Json.Members

/-- Two values may be set in any order where one of the keys has its place already. -/
theorem set_comm {members : Members} {key other : Text} (hne : key ≠ other)
    (hthere : other ∈ members.keys) (v w : Json) :
    (members.set key v).set other w = (members.set other w).set key v := by
  induction members with
  | nil => exact absurd hthere List.not_mem_nil
  | cons m members ih =>
    obtain ⟨k, value⟩ := m
    by_cases hkey : k = key
    · have hother : k ≠ other := fun h => hne (hkey.symm.trans h)
      rw [set, if_pos hkey, set, if_neg hne, set, if_neg hother, set, if_pos hkey]
    · by_cases hother : k = other
      · rw [set, if_neg hkey, set, if_pos hother, set, if_pos hother, set, if_neg (Ne.symm hne)]
      · have hrest : other ∈ keys members := by
          obtain h | h := List.mem_cons.1 hthere
          · exact absurd h.symm hother
          · exact h
        rw [set, if_neg hkey, set, if_neg hother, set, if_neg hother, set, if_neg hkey, ih hrest]

end Json.Members

namespace Document

/-- What an edit is about. -/
inductive EditKind where
  | title
  | link
  | panel
  deriving DecidableEq, Repr

/-- The kind of an edit. -/
def Edit.kind : Edit → EditKind
  | .title _ => .title
  | .link _ _ => .link
  | .panel _ => .panel

/-- Two runs have the same edits of each kind, in the same order. -/
def HaveSameEdits (es es' : List Edit) : Prop :=
  ∀ kind, es.filter (fun e => e.kind = kind) = es'.filter (fun e => e.kind = kind)

variable {d : Document} {e e' : Edit} {es es' : List Edit}

/-! ## Two edits -/

theorem IsSound.links_mem_keys (h : d.IsSound) : ("links" : Text) ∈ d.members.keys :=
  List.mem_map.2 ⟨_, Json.Members.mem_of_get? h.linksIsList, rfl⟩

theorem IsSound.panels_mem_keys (h : d.IsSound) : ("panels" : Text) ∈ d.members.keys :=
  List.mem_map.2 ⟨_, Json.Members.mem_of_get? h.panelsIsList, rfl⟩

/-- Where the panels are the same, the same panel is added. -/
theorem HasSamePanels.newPanel {d' : Document} (h : HasSamePanels d d') (content : PanelContent) :
    d'.newPanel content = d.newPanel content := by
  rw [Document.newPanel, Document.newPanel, h.nextPanelId, h.defaultDatasource?, h.cursor]

/-- A panel may be added before or behind a change in another place. -/
theorem addPanel_set (h : d.IsSound) {key : Text} (hkey : key ≠ "panels") (v : Json)
    (content : PanelContent) :
    addPanel ⟨d.members.set key v, d.cursor⟩ content =
      ⟨(d.addPanel content).members.set key v, (d.addPanel content).cursor⟩ := by
  have hsame : HasSamePanels d ⟨d.members.set key v, d.cursor⟩ := hasSamePanels_set hkey.symm v
  rw [addPanel, addPanel, hsame.newPanel, hsame.panels]
  exact congrArg (Document.mk · _) (Json.Members.set_comm hkey h.panels_mem_keys _ _)

theorem edit_title_panel (h : d.IsSound) (title : Text) (content : PanelContent) :
    (d.edit (.title title)).edit (.panel content) =
      (d.edit (.panel content)).edit (.title title) :=
  addPanel_set h (by decide) (.str title) content

theorem edit_link_panel (h : d.IsSound) (hlinks : d.LinksAreObjects) (title url : Text)
    (content : PanelContent) :
    (d.edit (.link title url)).edit (.panel content) =
      (d.edit (.panel content)).edit (.link title url) := by
  have hsame : (d.edit (.panel content)).links = d.links := links_addPanel d content
  rw [edit_link hlinks, edit_link (hlinks.edit (.panel content)), hsame]
  exact addPanel_set h (by decide) _ content

theorem edit_title_link (h : d.IsSound) (hlinks : d.LinksAreObjects) (title title' url : Text) :
    (d.edit (.title title)).edit (.link title' url) =
      (d.edit (.link title' url)).edit (.title title) := by
  have hsame : (d.edit (.title title)).links = d.links := links_setTitle d title
  rw [edit_link hlinks, edit_link (hlinks.edit (.title title)), hsame]
  exact congrArg (Document.mk · d.cursor)
    (Json.Members.set_comm (by decide) h.links_mem_keys (.str title) _)

/-- **Two edits of different kinds** may change places. -/
theorem edit_comm (h : d.IsSound) (hlinks : d.LinksAreObjects) (hkind : e.kind ≠ e'.kind) :
    (d.edit e).edit e' = (d.edit e').edit e := by
  cases e with
  | title title =>
    cases e' with
    | title title' => exact absurd rfl hkind
    | link title' url => exact edit_title_link h hlinks title title' url
    | panel content => exact edit_title_panel h title content
  | link title url =>
    cases e' with
    | title title' => exact (edit_title_link h hlinks title' title url).symm
    | link title' url' => exact absurd rfl hkind
    | panel content => exact edit_link_panel h hlinks title url content
  | panel content =>
    cases e' with
    | title title => exact (edit_title_panel h title content).symm
    | link title url => exact (edit_link_panel h hlinks title url content).symm
    | panel content' => exact absurd rfl hkind

/-! ## Runs -/

theorem edits_cons (d : Document) (e : Edit) (es : List Edit) : d.edits (e :: es) = (d.edit e).edits es :=
  rfl

/-- An edit may be done ahead of edits of other kinds. -/
theorem edits_append_cons (h : d.IsSound) (hlinks : d.LinksAreObjects)
    (hkinds : ∀ b ∈ es, b.kind ≠ e.kind) (es' : List Edit) :
    d.edits (es ++ e :: es') = (d.edit e).edits (es ++ es') := by
  induction es generalizing d with
  | nil => rfl
  | cons b es ih =>
    have hfirst : b.kind ≠ e.kind := hkinds b List.mem_cons_self
    have hrest : ∀ b ∈ es, b.kind ≠ e.kind := fun b' hb' => hkinds b' (List.mem_cons_of_mem b hb')
    rw [List.cons_append, edits_cons, ih (h.edit (edit?_eq hlinks b)) (hlinks.edit b) hrest,
      List.cons_append, edits_cons, edit_comm h hlinks hfirst]

/-- The first edit of a run stands in the other one behind edits of other kinds, and without it the two
runs still have the same edits. -/
theorem HaveSameEdits.exists_eq (h : HaveSameEdits (e :: es) es') :
    ∃ before after, es' = before ++ e :: after ∧ (∀ b ∈ before, b.kind ≠ e.kind) ∧
      HaveSameEdits es (before ++ after) := by
  have hfirst := h e.kind
  rw [List.filter_cons_of_pos (by simp)] at hfirst
  obtain ⟨before, after, rfl, hbefore, -, hafter⟩ := List.filter_eq_cons_iff.1 hfirst.symm
  have hkinds : ∀ b ∈ before, b.kind ≠ e.kind := fun b hb => by simpa using hbefore b hb
  refine ⟨before, after, rfl, hkinds, fun kind => ?_⟩
  by_cases hkind : e.kind = kind
  · subst hkind
    have hnone : before.filter (fun b => b.kind = e.kind) = [] :=
      List.filter_eq_nil_iff.2 fun b hb => by simpa using hkinds b hb
    rw [List.filter_append, hnone, List.nil_append, hafter]
  · have hother := h kind
    rwa [List.filter_cons_of_neg (by simpa using hkind), List.filter_append,
      List.filter_cons_of_neg (by simpa using hkind), ← List.filter_append] at hother

theorem edits_eq_of_haveSameEdits (h : d.IsSound) (hlinks : d.LinksAreObjects)
    (hsame : HaveSameEdits es es') : d.edits es = d.edits es' := by
  induction es generalizing d es' with
  | nil =>
    -- an edit of the other run would be one of its kind
    cases es' with
    | nil => rfl
    | cons e es' =>
      have hkind := hsame e.kind
      rw [List.filter_cons_of_pos (by simp)] at hkind
      exact absurd hkind (by simp)
  | cons e es ih =>
    obtain ⟨before, after, rfl, hkinds, hrest⟩ := hsame.exists_eq
    rw [edits_append_cons h hlinks hkinds, edits_cons]
    exact ih (h.edit (edit?_eq hlinks e)) (hlinks.edit e) hrest

/-- **Edits of different kinds commute.**  Where the links of an accepted dashboard are objects, two runs
with the same edits of each kind both come to an end, and however the kinds are interleaved it is the same
document, with the same keys in the same order, and the same text in every layout. -/
theorem edits?_of_interleaved {text : Text} (hparse : parse text = .ok d)
    (hlinks : ∀ link ∈ d.links, link.isObject = true) (hsame : HaveSameEdits es es') :
    ∃ final final', d.edits? es = some final ∧ d.edits? es' = some final' ∧ final = final' ∧
      ∀ indent, final.serialize indent = final'.serialize indent := by
  have heq : d.edits es = d.edits es' :=
    edits_eq_of_haveSameEdits (isSound_of_parse hparse) hlinks hsame
  exact ⟨d.edits es, d.edits es', edits?_eq hlinks es, edits?_eq hlinks es', heq,
    fun indent => congrArg (serialize · indent) heq⟩

/-- Edits of all kinds, two of each. -/
def mixedEdits : List Edit :=
  [.title "t", .panel { kind := .gauge, title := "p", query := "q" }, .link "l" "u", .link "k" "v",
    .title "s", .panel { kind := .stat, title := "o", query := "r" }]

/-- The same edits, first the links, then the panels, then the titles. -/
def sortedEdits : List Edit :=
  [.link "l" "u", .link "k" "v", .panel { kind := .gauge, title := "p", query := "q" },
    .panel { kind := .stat, title := "o", query := "r" }, .title "t", .title "s"]

theorem edits?_of_interleaved_mixed :
    ∃ d, parse unusualSource = .ok d ∧ (∀ link ∈ d.links, link.isObject = true) ∧
      HaveSameEdits mixedEdits sortedEdits ∧ ∃ final final', d.edits? mixedEdits = some final ∧
        d.edits? sortedEdits = some final' ∧ final = final' ∧
        ∀ indent, final.serialize indent = final'.serialize indent := by
  have haccept : (parse unusualSource).toOption.any (fun d => d.links.all Json.isObject) = true := by
    decide +kernel
  obtain ⟨d, hd, hobjects⟩ := (Option.any_eq_true _ _).1 haccept
  have hparse := eq_ok_of_toOption_eq_some hd
  have hlinks : ∀ link ∈ d.links, link.isObject = true := List.all_eq_true.1 hobjects
  have hsame : HaveSameEdits mixedEdits sortedEdits := by
    intro kind
    cases kind <;> rfl
  exact ⟨d, hparse, hlinks, hsame, edits?_of_interleaved hparse hlinks hsame⟩

end Document
end DashboardSynthesis
