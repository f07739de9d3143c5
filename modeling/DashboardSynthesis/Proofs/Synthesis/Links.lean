import DashboardSynthesis.Proofs.Synthesis.AuditLink
import DashboardSynthesis.Proofs.Synthesis.DecisionDashboard

/-!
# The links of dashboards

A synthesis adds one link at most, so its dashboard has the links of the customized template and, if the
audit link is asked for, that one in place of all links with its title (`links_of_dashboard`).  This is the
case of one link of what holds of all runs of edits: for each title that is added the last link stays, and
the other links are left alone (`links_lastOneStays`).
-/

namespace DashboardSynthesis
namespace Synthesizer

open Document (LinksAreObjects IsReplaced addedLinks lastOfEach linkTo hasTitle)

variable {s : Synthesizer} {flavor : Flavor} {r : DashboardRequest} {σ σ' : Session} {text : Text}

/-- What is read back from the text of a dashboard: the members of the customized template with the title,
the link that may be asked for and the panels of its flavor. -/
theorem exists_readBack (h : (s.dashboard flavor r).on σ = (.ok text, σ')) :
    ∃ template parsed d contents y, loadTemplate σ.files σ.home r.template = .ok template ∧
      Document.parse (s.customized r σ template) = .ok parsed ∧
      titled? r (r.title flavor) parsed = some d ∧
      Document.parse text = .ok ⟨(List.foldl Document.addPanel d contents).members, ⟨0, y⟩⟩ := by
  have houtcome : s.outcome flavor r σ = .ok text := by rw [← dashboard_on_fst, h]
  obtain ⟨template, parsed, d, final, hload, hparse, htitled, hextended, hwrite⟩ :=
    exists_of_outcome houtcome
  obtain ⟨hsound, -⟩ := titled?_spec (Document.isSound_of_parse hparse) htitled
  obtain ⟨contents, rfl, -⟩ := exists_contents_of_extended hextended
  have hfinal := Document.isSound_addPanels hsound contents
  obtain ⟨-, y, hback⟩ := hfinal.parse_of_serialize hwrite
  exact ⟨template, parsed, d, contents, y, hload, hparse, htitled, hback⟩

/-- The links of a dashboard are those of the customized template, and the audit link if that is asked for,
as the last one and as the only one with its title. -/
theorem links_of_dashboard (h : (s.dashboard flavor r).on σ = (.ok text, σ')) :
    ∃ template parsed dashboard, loadTemplate σ.files σ.home r.template = .ok template ∧
      Document.parse (s.customized r σ template) = .ok parsed ∧ Document.parse text = .ok dashboard ∧
      dashboard.links =
        if r.auditLink then
          parsed.links.filter (fun link => !hasTitle auditLinkTitle link) ++
            [linkTo auditLinkTitle auditLinkUrl]
        else parsed.links := by
  obtain ⟨template, parsed, d, contents, y, hload, hparse, htitled, hback⟩ := exists_readBack h
  obtain ⟨-, -, hlinks, -⟩ := titled?_spec (Document.isSound_of_parse hparse) htitled
  refine ⟨template, parsed, _, hload, hparse, hback, ?_⟩
  -- only the members are read back, and the links are among them
  have hsame : Document.links ⟨(contents.foldl Document.addPanel d).members, ⟨0, y⟩⟩ = d.links :=
    Document.links_addPanels d contents
  rw [hsame, hlinks]

/-- A dashboard has the title that was asked for. -/
theorem title_of_dashboard (h : (s.dashboard flavor r).on σ = (.ok text, σ')) :
    ∃ dashboard, Document.parse text = .ok dashboard ∧
      dashboard.members.get? "title" = some (.str (r.title flavor)) := by
  obtain ⟨_, parsed, d, contents, y, -, hparse, htitled, hback⟩ := exists_readBack h
  obtain ⟨hsound, -, -, hothers⟩ := titled?_spec (Document.isSound_of_parse hparse) htitled
  refine ⟨_, hback, ?_⟩
  have hpanels := Document.members_addPanels hsound.panelsIsList contents
  have htitle := hothers "title" (by decide)
  show (contents.foldl Document.addPanel d).members.get? "title" = _
  rw [hpanels, Json.Members.get?_set_of_ne _ _ (by decide), htitle]
  exact Json.Members.get?_set_self _ _ _

/-- A dashboard with two links of one title, a link whose title is no text, and a link without a title. -/
def linkedSource : Text :=
  "\x7b\"links\": [\x7b\"title\": \"k\"\x7d, \x7b\"title\": 1\x7d, \x7b\"title\": \"l\"\x7d, \x7b\x7d, \x7b\"title\": \"l\"\x7d]\x7d"

/-- One link is added, another one of the same title, one of a new title, and the first one again. -/
def linkEdits : List Document.Edit :=
  [.link "l" "u", .link "l" "v", .title "t", .link "m" "w", .link "l" "u"]

end Synthesizer
end DashboardSynthesis
