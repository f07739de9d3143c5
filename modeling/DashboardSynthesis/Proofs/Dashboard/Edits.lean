import DashboardSynthesis.Proofs.Dashboard.Panels
import DashboardSynthesis.Proofs.Json.RoundTrip
import Mathlib.Data.List.Forall2

/-!
# Editing documents

A document changes by edits: it gets a title, a link, or a generated panel.  `IsSound` is what holds of
every document that was parsed and of every document that comes out of a sound one by an edit
(`isSound_of_parse`, `IsSound.edit`): its lists are there, its panels are acceptable, and as a value it
is normal.  It follows that a sound document, once it has been written, is read back as what it was
(`IsSound.parse_of_serialize`), and so is an accepted text after any edits (`parse_serialize_edits`).
-/

namespace DashboardSynthesis
namespace Document

open Json (Each EachItem EachMember LocallyNormal IsNormal)

/-- What holds of the documents that are parsed and edited. -/
structure IsSound (d : Document) : Prop where
  panelsIsList : d.members.get? "panels" = some (.arr d.panels)
  linksIsList : d.members.get? "links" = some (.arr d.links)
  panels : ∀ panel ∈ d.panels, PanelIsAcceptable panel
  isNormal : (Json.obj d.members).IsNormal

/-- One step of editing. -/
inductive Edit where
  | title (title : Text)
  | link (title url : Text)
  | panel (content : PanelContent)

/-- The document after an edit. -/
def edit? (d : Document) : Edit → Option Document
  | .title title => some (d.setTitle title)
  | .link title url => d.addLink? title url
  | .panel content => some (d.addPanel content)

/-- The document after edits, one behind the other. -/
def edits? (d : Document) : List Edit → Option Document
  | [] => some d
  | e :: es => (d.edit? e).bind fun d => d.edits? es

theorem isSound_of_parse {text : Text} {d : Document} (h : parse text = .ok d) : d.IsSound := by
  obtain ⟨members, hread, hd⟩ := parse_eq_ok_iff.1 h
  obtain ⟨haccept, y, -, rfl⟩ := ofMembers_eq_ok_iff.1 hd
  have hnormal := Json.isNormal_of_read hread
  refine ⟨?_, ?_, ?_, ?_⟩
  · rw [get?_complete_panels, panels, panelsOf_complete]
    exact congrArg some (getD_of_isListOrAbsent haccept.panelsIsList)
  · rw [get?_complete_links, links, get?_complete_links, Option.getD_some]
    have hlinks := getD_of_isListOrAbsent haccept.linksIsList
    rw [hlinks]
    rfl
  · intro panel hpanel
    rw [panels, panelsOf_complete] at hpanel
    exact haccept.panels panel hpanel
  · have hempty : (Json.arr []).IsNormal := ⟨trivial, trivial⟩
    exact ⟨Json.Members.nodup_setDefault (Json.Members.nodup_setDefault hnormal.1 _ _) _ _,
      Json.eachMember_setDefault (Json.eachMember_setDefault hnormal.2 _ hempty) _ hempty⟩

theorem isNormal_linkTo (title url : Text) : (linkTo title url).IsNormal := by
  refine ⟨?_, trivial, trivial, trivial, trivial, ⟨trivial, trivial⟩, trivial, trivial, trivial,
    trivial, trivial, trivial⟩
  simp only [LocallyNormal, Json.Members.keys, List.map]
  decide

/-! ## Writing -/

section Writing

variable {d : Document} {indent : ℤ}

theorem serialize_of_not_isWidth (h : ¬ isWidth indent = true) :
    d.serialize (some indent) = .error .indentTooLarge := by
  rw [serialize, if_pos (by simpa using h)]

theorem serialize_of_deep (hwidth : isWidth indent = true)
    (hdepth : ¬ (Json.obj d.members).depth ≤ Json.nestingLimit) :
    d.serialize (some indent) = .error .tooDeep := by
  rw [serialize, if_neg (by simpa using hwidth), if_pos (Nat.lt_of_not_le hdepth)]

theorem serialize_of_depth_le (hwidth : isWidth indent = true)
    (hdepth : (Json.obj d.members).depth ≤ Json.nestingLimit) :
    d.serialize (some indent) =
      match (Json.obj d.members).print? (.ofIndent (some indent)) with
      | some text => .ok text
      | none => .error .tooManyDigits := by
  have hindent : ¬ (!(some indent).all isWidth) = true := by simpa using hwidth
  exact (if_neg hindent).trans (if_neg (Nat.not_lt.2 hdepth))

/-- What it takes to be written. -/
theorem exists_serialize_iff : (∃ text, d.serialize (some indent) = .ok text) ↔
    isWidth indent = true ∧ (Json.obj d.members).depth ≤ Json.nestingLimit ∧
      (Json.obj d.members).isPrintable = true := by
  by_cases hwidth : isWidth indent = true
  · by_cases hdepth : (Json.obj d.members).depth ≤ Json.nestingLimit
    · rw [serialize_of_depth_le hwidth hdepth, Json.print?]
      cases hprintable : (Json.obj d.members).isPrintable <;> simp [hwidth, hdepth]
    · simp [serialize_of_deep hwidth hdepth, hdepth]
  · simp [serialize_of_not_isWidth hwidth, hwidth]

end Writing

/-! ## The datasource -/

section Parts

variable {p : Json → Prop}

theorem each_of_present? {panel v : Json} {key : Text} (h : panel.Each p)
    (hv : present? panel key = some v) : v.Each p :=
  h.value (Option.filter_eq_some_iff.1 hv).1

theorem each_items {v : Json} (h : v.Each p) : EachItem p v.items := by
  cases v with
  | arr items => exact h.2
  | _ => exact trivial

theorem eachItem_withChildren {panels : List Json} (h : EachItem p panels) :
    EachItem p (withChildren panels) := by
  rw [Json.eachItem_iff] at *
  intro v hv
  obtain ⟨panel, hpanel, hv⟩ := List.mem_flatMap.1 hv
  rcases List.mem_cons.1 hv with rfl | hv
  · exact h v hpanel
  · rw [children] at hv
    split at hv
    · next nested hnested =>
      exact Json.eachItem_iff.1 (each_items (each_of_present? (h panel hpanel) hnested)) v hv
    · exact absurd hv List.not_mem_nil

theorem present?_of_offeredDatasource? {panel v : Json} (h : offeredDatasource? panel = some v) :
    present? panel "datasource" = some v := by
  unfold offeredDatasource? at h
  split at h
  · split_ifs at h
    exact h
  · exact h

theorem each_defaultDatasource? {d : Document} (h : EachItem p d.panels) {v : Json}
    (hv : d.defaultDatasource? = some v) : v.Each p := by
  obtain ⟨panel, hpanel, hv⟩ := List.exists_of_findSome?_eq_some hv
  exact each_of_present? (Json.eachItem_iff.1 (eachItem_withChildren h) panel hpanel)
    (present?_of_offeredDatasource? hv)

end Parts

theorem IsSound.eachItem_panels {d : Document} (h : d.IsSound) : EachItem LocallyNormal d.panels :=
  (Json.Each.get? h.isNormal.2 h.panelsIsList).2

theorem IsSound.eachItem_links {d : Document} (h : d.IsSound) : EachItem LocallyNormal d.links :=
  (Json.Each.get? h.isNormal.2 h.linksIsList).2

/-! ## One edit -/

theorem panels_eq {d : Document} {items : List Json}
    (h : d.members.get? "panels" = some (.arr items)) : d.panels = items := by
  rw [panels, panelsOf, h]
  rfl

theorem links_eq {d : Document} {items : List Json}
    (h : d.members.get? "links" = some (.arr items)) : d.links = items := by
  rw [links, h]
  rfl

theorem isSound_of_lists {d : Document} (items links : List Json)
    (hitems : d.members.get? "panels" = some (.arr items))
    (hlinks : d.members.get? "links" = some (.arr links))
    (hpanels : ∀ panel ∈ items, PanelIsAcceptable panel) (hnormal : (Json.obj d.members).IsNormal) :
    d.IsSound := by
  refine ⟨?_, ?_, ?_, hnormal⟩
  · rw [panels_eq hitems, hitems]
  · rw [links_eq hlinks, hlinks]
  · rw [panels_eq hitems]
    exact hpanels

namespace IsSound

variable {d : Document}

theorem isNormal_set (h : d.IsSound) (key : Text) {v : Json} (hv : v.IsNormal) :
    (Json.obj (d.members.set key v)).IsNormal :=
  ⟨Json.Members.nodup_set h.isNormal.1 key v, Json.eachMember_set h.isNormal.2 key hv⟩

/-- A member that is not one of the two lists may be set to anything normal. -/
theorem set_of_ne (h : d.IsSound) {key : Text} (h1 : ("panels" : Text) ≠ key)
    (h2 : ("links" : Text) ≠ key) {v : Json} (hv : v.IsNormal) :
    IsSound { d with members := d.members.set key v } := by
  refine isSound_of_lists d.panels d.links ?_ ?_ h.panels (h.isNormal_set key hv)
  · exact (Json.Members.get?_set_of_ne _ v h1).trans h.panelsIsList
  · exact (Json.Members.get?_set_of_ne _ v h2).trans h.linksIsList

theorem setTitle (h : d.IsSound) (title : Text) : (d.setTitle title).IsSound :=
  h.set_of_ne (by decide) (by decide) trivial

theorem setLinks (h : d.IsSound) {links : List Json} (hlinks : EachItem LocallyNormal links) :
    IsSound { d with members := d.members.set "links" (.arr links) } := by
  refine isSound_of_lists d.panels links ?_
    (Json.Members.get?_set_self _ _ _) h.panels (h.isNormal_set _ ⟨trivial, hlinks⟩)
  exact (Json.Members.get?_set_of_ne _ _ (by decide)).trans h.panelsIsList

theorem addLink (h : d.IsSound) {title url : Text} {d' : Document}
    (hd : d.addLink? title url = some d') : d'.IsSound := by
  rw [addLink?] at hd
  split_ifs at hd
  rw [← Option.some_inj.1 hd]
  refine h.setLinks (Json.eachItem_append ?_ ⟨isNormal_linkTo title url, trivial⟩)
  rw [Json.eachItem_iff]
  intro link hlink
  exact Json.eachItem_iff.1 h.eachItem_links link (List.mem_filter.1 hlink).1

theorem isNormal_newPanel (h : d.IsSound) (content : PanelContent) : (d.newPanel content).IsNormal :=
  isNormal_toJson content _ _ fun _ hv => each_defaultDatasource? h.eachItem_panels hv

theorem addPanel (h : d.IsSound) (content : PanelContent) : (d.addPanel content).IsSound := by
  have hpanel := h.isNormal_newPanel content
  refine isSound_of_lists (d.panels ++ [d.newPanel content]) d.links
    (Json.Members.get?_set_self _ _ _) ?_ ?_
    (h.isNormal_set _ ⟨trivial, Json.eachItem_append h.eachItem_panels ⟨hpanel, trivial⟩⟩)
  · exact (Json.Members.get?_set_of_ne _ _ (by decide)).trans h.linksIsList
  · intro panel hpanel
    rcases List.mem_append.1 hpanel with hpanel | hpanel
    · exact h.panels panel hpanel
    · rw [List.mem_singleton.1 hpanel]
      exact panelIsAcceptable_toJson content _ _ _

theorem edit (h : d.IsSound) {e : Edit} {d' : Document} (he : d.edit? e = some d') : d'.IsSound := by
  cases e with
  | title title => exact Option.some_inj.1 he ▸ h.setTitle title
  | link title url => exact h.addLink he
  | panel content => exact Option.some_inj.1 he ▸ h.addPanel content

/-- **Editing keeps a document sound.** -/
theorem edits {es : List Edit} {d' : Document} (h : d.IsSound) (hes : d.edits? es = some d') :
    d'.IsSound := by
  induction es generalizing d with
  | nil =>
    rw [edits?, Option.some_inj] at hes
    exact hes ▸ h
  | cons e es ih =>
    obtain ⟨d₁, he, hes⟩ := Option.bind_eq_some_iff.1 hes
    exact ih (h.edit he) hes

/-! ## Reading back -/

theorem isAcceptable (h : d.IsSound) : IsAcceptable d.members := by
  refine ⟨?_, ?_, h.panels⟩
  · rw [isListOrAbsent, h.panelsIsList]
  · rw [isListOrAbsent, h.linksIsList]

/-- **What is written reads back.** -/
theorem parse_of_serialize (h : d.IsSound) {indent : Option ℤ} {text : Text}
    (htext : d.serialize indent = .ok text) :
    Json.read text = .ok (.obj d.members) ∧ ∃ y, parse text = .ok ⟨d.members, ⟨0, y⟩⟩ := by
  have hread : Json.read text = .ok (.obj d.members) := by
    rw [serialize] at htext
    split_ifs at htext with hindent hdepth
    split at htext
    · next printed hprint =>
      rw [Json.print?] at hprint
      split_ifs at hprint with hprintable
      rw [← Except.ok.inj htext, ← Option.some_inj.1 hprint]
      exact Json.read_print _ h.isNormal hprintable (Nat.not_lt.1 hdepth)
    · exact absurd htext (by simp)
  refine ⟨hread, ?_⟩
  obtain ⟨y, hy⟩ := (exists_contentBottom_iff 0).2 fun panel hpanel =>
    (h.isAcceptable.panels panel hpanel).edge
  refine ⟨y, parse_eq_ok_iff.2 ⟨d.members, hread, ofMembers_eq_ok_iff.2 ⟨h.isAcceptable, y, hy, ?_⟩⟩⟩
  rw [complete_of_some h.panelsIsList h.linksIsList]

end IsSound

/-- **Round trip.**  What is written of an accepted text after edits is accepted again, in whatever layout
it is written: it holds the same members in the same order, and is written as the same text. -/
theorem parse_serialize_edits {source text : Text} {d d' : Document} {es : List Edit} {indent : Option ℤ}
    (hparse : parse source = .ok d) (hes : d.edits? es = some d')
    (htext : d'.serialize indent = .ok text) :
    ∃ back, parse text = .ok back ∧ back.members = d'.members ∧ back.serialize indent = .ok text := by
  have hsound : d'.IsSound := (isSound_of_parse hparse).edits hes
  obtain ⟨-, y, hback⟩ := hsound.parse_of_serialize htext
  -- the cursor is a new one, but only the members are written
  exact ⟨⟨d'.members, ⟨0, y⟩⟩, hback, rfl, htext⟩

/-- A dashboard with a number that is none, a lone surrogate and a link. -/
def unusualSource : Text :=
  "\x7b\"a\": [NaN, -Infinity, -0.0], \"\\ud800\": \"\\u0001\", \"links\": [\x7b\"title\": \"l\"\x7d]\x7d"

/-- One edit of each kind. -/
def someEdits : List Edit :=
  [.panel { kind := .gauge, title := "p", query := "q" }, .link "l" "u", .title "t"]

theorem parse_serialize_edits_unusual :
    ∃ d d' text, parse unusualSource = .ok d ∧ d.edits? someEdits = some d' ∧
      d'.serialize (some (-1)) = .ok text ∧ ∃ back, parse text = .ok back ∧
        back.members = d'.members ∧ back.serialize (some (-1)) = .ok text := by
  have hwritten : ((parse unusualSource).toOption.bind (·.edits? someEdits)).any
      (fun d' => (d'.serialize (some (-1))).isOk) = true := by decide +kernel
  obtain ⟨d', hd', hok⟩ := (Option.any_eq_true _ _).1 hwritten
  obtain ⟨d, hd, hes⟩ := Option.bind_eq_some_iff.1 hd'
  obtain ⟨text, htext⟩ := exists_eq_ok_of_isOk hok
  have hparse := eq_ok_of_toOption_eq_some hd
  exact ⟨d, d', text, hparse, hes, htext, parse_serialize_edits hparse hes htext⟩

/-! ## What an edit leaves alone -/

section Frame

variable (d : Document)

theorem get?_setTitle_of_ne (title : Text) {key : Text} (h : key ≠ "title") :
    (d.setTitle title).members.get? key = d.members.get? key := Json.Members.get?_set_of_ne _ _ h

theorem links_setTitle (title : Text) : (d.setTitle title).links = d.links := by
  rw [links, links, get?_setTitle_of_ne d title (by decide)]

theorem panels_addPanel (content : PanelContent) :
    (d.addPanel content).panels = d.panels ++ [d.newPanel content] :=
  panels_eq (Json.Members.get?_set_self _ _ _)

theorem keys_set_of_get? {members : Json.Members} {key : Text} {v : Json}
    (h : members.get? key = some v) (w : Json) : (members.set key w).keys = members.keys := by
  have hmem : key ∈ members.keys := List.mem_map.2 ⟨_, Json.Members.mem_of_get? h, rfl⟩
  rw [Json.Members.keys_set, if_pos hmem]

theorem addLink?_spec {d d' : Document} (h : d.IsSound) {title url : Text}
    (hd : d.addLink? title url = some d') :
    d'.links = d.links.filter (fun link => !hasTitle title link) ++ [linkTo title url] ∧
      d'.members.keys = d.members.keys ∧
      ∀ key : Text, key ≠ "links" → d'.members.get? key = d.members.get? key := by
  rw [addLink?] at hd
  split_ifs at hd
  rw [← Option.some_inj.1 hd]
  refine ⟨links_eq (Json.Members.get?_set_self _ _ _), keys_set_of_get? h.linksIsList _, ?_⟩
  exact fun key hkey => Json.Members.get?_set_of_ne _ _ hkey

end Frame

end Document
end DashboardSynthesis
