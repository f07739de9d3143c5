import DashboardSynthesis.Proofs.Dashboard.Links
import DashboardSynthesis.Proofs.Synthesis.Outcome

/-!
# With and without the audit link

A dashboard may be asked for with the audit link or without it.  Both texts are the same exactly if the
template brings the link along: it is the last link, and there is no other one with its title
(`text_eq_iff_auditLinkIsThere`).  For what is written of a sound document determines its members, and the
panels that are added do not touch the links.
-/

namespace DashboardSynthesis

/-! ## Links of a document -/

namespace Document

/-- The document has a link as its last one, and no other link with the title. -/
def HasLink (d : Document) (title url : Text) : Prop :=
  ∃ others, d.links = others ++ [linkTo title url] ∧
    ∀ link ∈ others, link.isObject = true ∧ ¬ hasTitle title link = true

variable {d d' linked : Document} {title url text text' : Text} {indent : Option ℤ}

/-- A link that has been added is there. -/
theorem IsSound.hasLink (h : d.IsSound) (hlinked : d.addLink? title url = some linked) :
    linked.HasLink title url := by
  refine ⟨_, (addLink?_spec h hlinked).1, fun link hlink => ?_⟩
  obtain ⟨hmem, htitle⟩ := List.mem_filter.1 hlink
  rw [addLink?] at hlinked
  split_ifs at hlinked with hobjects
  exact ⟨List.all_eq_true.1 hobjects link hmem, by simpa using htitle⟩

/-- A link that is there is not added again. -/
theorem IsSound.addLink?_of_hasLink (h : d.IsSound) (hthere : d.HasLink title url) :
    d.addLink? title url = some d := by
  obtain ⟨others, hlinks, hothers⟩ := hthere
  have hobjects : d.links.all Json.isObject = true := by
    rw [hlinks, List.all_append, Bool.and_eq_true, List.all_eq_true]
    exact ⟨fun link hlink => (hothers link hlink).1, rfl⟩
  have hfilter : d.links.filter (fun link => !hasTitle title link) = others := by
    have hself : others.filter (fun link => !hasTitle title link) = others :=
      List.filter_eq_self.2 fun link hlink => by simpa using (hothers link hlink).2
    rw [hlinks, List.filter_append, hself, List.filter_cons_of_neg (by simp [hasTitle_linkTo]),
      List.filter_nil, List.append_nil]
  rw [addLink?, if_pos hobjects]
  dsimp only
  rw [hfilter, ← hlinks, Json.Members.set_of_get? h.linksIsList]

theorem links_addPanels (d : Document) (contents : List PanelContent) :
    (contents.foldl addPanel d).links = d.links := by
  induction contents generalizing d with
  | nil => rfl
  | cons content contents ih =>
    rw [List.foldl_cons, ih, links_addPanel]

/-- What is written of a sound document determines its members. -/
theorem IsSound.members_eq_of_serialize (h : d.IsSound) (h' : d'.IsSound)
    (htext : d.serialize indent = .ok text) (htext' : d'.serialize indent = .ok text) :
    d.members = d'.members := by
  have hread := (h.parse_of_serialize htext).1
  have hread' := (h'.parse_of_serialize htext').1
  exact Json.obj.inj (Except.ok.inj (hread.symm.trans hread'))

/-- A document and the same document with a link, both with panels added, come to the same text exactly if
the link was there already. -/
theorem text_eq_iff_hasLink (h : d.IsSound) (hlinked : d.addLink? title url = some linked)
    (contents : List PanelContent)
    (htext : (contents.foldl addPanel linked).serialize indent = .ok text)
    (htext' : (contents.foldl addPanel d).serialize indent = .ok text') :
    text = text' ↔ d.HasLink title url := by
  constructor
  · rintro rfl
    have hsound := isSound_addPanels (h.addLink hlinked) contents
    have hmembers := hsound.members_eq_of_serialize (isSound_addPanels h contents) htext htext'
    have hlinks : linked.links = d.links := by
      rw [← links_addPanels linked contents, ← links_addPanels d contents, links, links, hmembers]
    have hthere := h.hasLink hlinked
    rwa [HasLink, hlinks] at hthere
  · intro hthere
    obtain rfl := Option.some_inj.1 (hlinked.symm.trans (h.addLink?_of_hasLink hthere))
    exact Except.ok.inj (htext.symm.trans htext')

end Document

/-! ## Templates with the link -/

namespace Synthesizer

variable {s : Synthesizer} {r : DashboardRequest} {flavor : Flavor} {σ : Session}

/-- The template, as it is customized, has the audit link already. -/
def AuditLinkIsThere (s : Synthesizer) (r : DashboardRequest) (σ : Session) : Prop :=
  ∃ template parsed, loadTemplate σ.files σ.home r.template = .ok template ∧
    Document.parse (s.customized r σ template) = .ok parsed ∧
    parsed.HasLink auditLinkTitle auditLinkUrl

/-- What a flavor adds to a document are panels, and which ones does not depend on the document. -/
theorem exists_contents_of_extended {d final : Document} (h : s.extended r d flavor = .ok final) :
    ∃ contents : List PanelContent, final = contents.foldl Document.addPanel d ∧
      ∀ d', s.extended r d' flavor = .ok (contents.foldl Document.addPanel d') := by
  cases flavor with
  | operational | ruleUnit => exact ⟨[], (Except.ok.inj h).symm, fun _ => rfl⟩
  | decisionModel decisions =>
    rw [extended] at h
    split at h
    · next ts hts =>
      refine ⟨_, (Except.ok.inj h).symm, fun d' => ?_⟩
      rw [extended, hts]
    · exact absurd h (by simp)

/-- **With and without the audit link.**  Both texts are the same exactly if the template has the link. -/
theorem text_eq_iff_auditLinkIsThere {text text' : Text}
    (h : s.outcome flavor { r with auditLink := true } σ = .ok text)
    (h' : s.outcome flavor { r with auditLink := false } σ = .ok text') :
    text = text' ↔ s.AuditLinkIsThere r σ := by
  obtain ⟨template, parsed, linked, final, hload, hparse, htitled, hextended, hwrite⟩ :=
    exists_of_outcome h
  obtain ⟨template', parsed', d, final', hload', hparse', htitled', hextended', hwrite'⟩ :=
    exists_of_outcome h'
  obtain rfl := Except.ok.inj (hload.symm.trans hload')
  obtain rfl := Except.ok.inj (hparse.symm.trans hparse')
  -- without the link the edits come down to the title, with it the link is added to that document
  obtain rfl := Option.some_inj.1 htitled'
  obtain ⟨contents, rfl, hadds⟩ := exists_contents_of_extended hextended
  obtain rfl := Except.ok.inj ((hadds _).symm.trans hextended')
  have hsound := Document.isSound_of_parse hparse
  have hiff := Document.text_eq_iff_hasLink (hsound.setTitle _) htitled contents hwrite hwrite'
  rw [hiff, Document.HasLink, Document.links_setTitle]
  constructor
  · exact fun hthere => ⟨template, parsed, hload, hparse, hthere⟩
  · rintro ⟨template', parsed', hload', hparse', hthere⟩
    obtain rfl := Except.ok.inj (hload.symm.trans hload')
    obtain rfl := Except.ok.inj (hparse.symm.trans hparse')
    exact hthere

end Synthesizer
end DashboardSynthesis
