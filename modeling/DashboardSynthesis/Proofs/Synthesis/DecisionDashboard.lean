import DashboardSynthesis.Proofs.Dashboard.Placement
import DashboardSynthesis.Proofs.Decision.Treatment
import DashboardSynthesis.Proofs.Json.Joining
import DashboardSynthesis.Proofs.Outcome
import DashboardSynthesis.Proofs.Synthesis.Outcome

/-!
# The dashboard of a decision model

What a synthesizer returns for a decision model is the customized template with a title, with the audit
link if that is asked for, and with one panel for each decision of a supported type
(`dashboard_decisionModel_spec`).  The statement is about the text that is returned, so it passes through
everything in between: the template is read, edited as a document, written, and what was written is read
back.

The session is arbitrary, so nothing depends on what the synthesizer did before; the warnings it holds
by then stay in front of the new ones.
-/

namespace DashboardSynthesis

/-- The panel of a decision: a time series, titled by the decision, with the query of the type's
function over the metric, selected by endpoint, decision, artifact and version, and with the type's
axis label.  In title and query surrogates are joined, so texts without surrogates are as they are
(`Json.joined_of_isScalar`). -/
structure IsDecisionPanel (registry : Registry) (metric endpoint : Text) (build : Build) (d : Decision)
    (panel : Json) : Prop where
  type : panel.get? "type" = some (.str "timeseries")
  title : panel.get? "title" = some (.str (("Decision " : Text) ++ Json.joined d.name))
  query : ∃ type function query, d.localType? = some type ∧ registry.functionFor type = .ok function ∧
    function.render metric [⟨"endpoint", PromQL.quoted endpoint⟩, ⟨"decision", PromQL.quoted d.name⟩,
      ⟨"artifactId", PromQL.quoted build.artifactId⟩, ⟨"version", PromQL.quoted build.version⟩] =
      .ok query ∧
    Document.queryOf? panel = some (Json.joined query)
  axisLabel : ∃ type label, d.localType? = some type ∧ registry.yAxisFor type = .ok label ∧
    Document.axisLabelOf? panel = if label = [] then none else some label

theorem isDecisionPanel_toJson {registry : Registry} {metric endpoint : Text} {build : Build}
    {d : Decision} {content : PanelContent}
    (h : IsDecisionContent registry metric endpoint build d content) (id : ℤ) (place : Grid.Place)
    (datasource : Option Json) :
    IsDecisionPanel registry metric endpoint build d (content.toJson id place datasource) := by
  obtain ⟨hkind, htitle, ⟨type, function, htype, hfunction, hquery⟩, type', label, htype', hlabel,
    haxis⟩ := h
  refine ⟨?_, ?_, ⟨type, function, content.query, htype, hfunction, hquery, ?_⟩,
    type', label, htype', hlabel, ?_⟩
  · rw [Document.type_toJson, hkind]
    rfl
  · rw [Document.title_toJson, htitle, Json.joined_append_of_isScalar (Text.isScalar_ofString _)]
  · exact Document.queryOf?_toJson content id place datasource
  · exact Document.axisLabelOf?_toJson content id place datasource haxis

/-- How the dashboard of a decision model comes from the customized template.  All keys stay in their
places, a title behind them if there was none. -/
structure IsDecisionDashboard (s : Synthesizer) (r : DashboardRequest) (decisions : List Decision)
    (template dashboard : Json.Members) : Prop where
  keys : dashboard.keys =
    if ("title" : Text) ∈ template.keys then template.keys else template.keys ++ [("title" : Text)]
  title : dashboard.get? "title" = some (.str (r.name ++ (" - Domain Dashboard" : Text)))
  links : ∃ links, template.get? "links" = some (.arr links) ∧
    dashboard.get? "links" = some (.arr
      (if r.auditLink then
        links.filter (fun link => !Document.hasTitle auditLinkTitle link) ++
          [Document.linkTo auditLinkTitle auditLinkUrl]
      else links))
  panels : ∃ panels generated, template.get? "panels" = some (.arr panels) ∧
    dashboard.get? "panels" = some (.arr (panels ++ generated)) ∧
    List.Forall₂ (IsDecisionPanel s.registry s.metric r.endpoint r.build)
      (decisions.filter (Decision.isSupported s.registry)) generated
  others : ∀ key : Text, key ≠ "title" → key ≠ "links" → key ≠ "panels" →
    dashboard.get? key = template.get? key

namespace Synthesizer

variable {s : Synthesizer} {r : DashboardRequest} {σ σ' : Session}

/-- What a synthesis for a decision model that succeeds went through. -/
theorem exists_of_outcome_eq_ok {decisions : List Decision} {text : Text}
    (h : s.outcome (.decisionModel decisions) r σ = .ok text) :
    ∃ template parsed d ts, loadTemplate σ.files σ.home r.template = .ok template ∧
      Document.parse (s.customized r σ template) = .ok parsed ∧
      titled? r (r.title (.decisionModel decisions)) parsed = some d ∧
      treatAll s.registry s.metric r.endpoint r.build decisions = (ts, none) ∧
      ((ts.filterMap Treatment.content?).foldl Document.addPanel d).serialize (some s.indent) =
        .ok text := by
  obtain ⟨template, parsed, d, final, hload, hparse, htitled, hextended, hwrite⟩ := exists_of_outcome h
  rw [extended] at hextended
  split at hextended
  · next ts hts =>
    obtain rfl := Except.ok.inj hextended
    exact ⟨template, parsed, d, ts, hload, hparse, htitled, hts, hwrite⟩
  · exact absurd hextended (by simp)

/-- What `titled?` does to a document. -/
theorem titled?_spec {title : Text} {d d' : Document} (hd : d.IsSound)
    (h : titled? r title d = some d') :
    d'.IsSound ∧ d'.members.keys = (d.setTitle title).members.keys ∧
      d'.links = (if r.auditLink then
        d.links.filter (fun link => !Document.hasTitle auditLinkTitle link) ++
          [Document.linkTo auditLinkTitle auditLinkUrl]
      else d.links) ∧
      ∀ key : Text, key ≠ "links" →
        d'.members.get? key = (d.setTitle title).members.get? key := by
  have htitle := hd.setTitle title
  rw [titled?] at h
  by_cases haudit : r.auditLink = true
  · rw [if_pos haudit] at h ⊢
    obtain ⟨hlinks, hkeys, hothers⟩ := Document.addLink?_spec htitle h
    rw [Document.links_setTitle] at hlinks
    exact ⟨htitle.addLink h, hkeys, hlinks, hothers⟩
  · rw [if_neg haudit] at h ⊢
    rw [← Option.some_inj.1 h]
    exact ⟨htitle, rfl, Document.links_setTitle d title, fun _ _ => rfl⟩

/-- The edits of a synthesis turn the customized template into the dashboard. -/
theorem isDecisionDashboard_of_edits {decisions : List Decision} {ts : List Treatment}
    {parsed d : Document} (hparsed : parsed.IsSound)
    (htitled : titled? r (r.title (.decisionModel decisions)) parsed = some d)
    (hts : treatAll s.registry s.metric r.endpoint r.build decisions = (ts, none)) :
    ((ts.filterMap Treatment.content?).foldl Document.addPanel d).IsSound ∧
      IsDecisionDashboard s r decisions parsed.members
        ((ts.filterMap Treatment.content?).foldl Document.addPanel d).members := by
  obtain ⟨hsound, hkeys, hlinks, hothers⟩ := titled?_spec hparsed htitled
  have hsound' := Document.isSound_addPanels hsound (ts.filterMap Treatment.content?)
  have hmembers := Document.members_addPanels hsound.panelsIsList (ts.filterMap Treatment.content?)
  have hpanels := Document.panels_addPanels d (ts.filterMap Treatment.content?)
  have hothers' : ∀ key : Text, key ≠ "panels" →
      ((ts.filterMap Treatment.content?).foldl Document.addPanel d).members.get? key =
        d.members.get? key := by
    intro key hkey
    rw [hmembers]
    exact Json.Members.get?_set_of_ne _ _ hkey
  have hpanels₀ : d.panels = parsed.panels := by
    have hget := hothers "panels" (by decide)
    rw [Document.get?_setTitle_of_ne parsed _ (by decide), hparsed.panelsIsList] at hget
    exact Document.panels_eq hget
  refine ⟨hsound', ?_, ?_, ⟨parsed.links, hparsed.linksIsList, ?_⟩,
    ⟨parsed.panels, Document.generated d.defaultDatasource? d.nextPanelId d.cursor
      (ts.filterMap Treatment.content?), hparsed.panelsIsList, ?_, ?_⟩, ?_⟩
  · rw [hmembers, Document.keys_set_of_get? hsound.panelsIsList, hkeys]
    exact Json.Members.keys_set _ _ _
  · rw [hothers' _ (by decide), hothers _ (by decide)]
    have htitle : r.title (.decisionModel decisions) = r.name ++ (" - Domain Dashboard" : Text) :=
      List.append_assoc _ _ _
    rw [← htitle]
    exact Json.Members.get?_set_self _ _ _
  · rw [hothers' _ (by decide), hsound.linksIsList, hlinks]
  · rw [hsound'.panelsIsList, hpanels, hpanels₀]
  · refine forall₂_comp ?_ (forall₂_panels hts) (Document.forall₂_generated _ _ _ _)
    rintro decision content panel hcontent ⟨id, place, datasource, rfl⟩
    exact isDecisionPanel_toJson hcontent id place datasource
  · intro key h1 h2 h3
    rw [hothers' key h3, hothers key h2, Document.get?_setTitle_of_ne parsed _ h1]

/-- **The dashboard of a decision model.**  Reading the text that is returned gives the customized
template with its title, the audit link if that is asked for, and one panel for each decision of a
supported type; for each of the other decisions there is a warning. -/
theorem dashboard_decisionModel_spec {decisions : List Decision} {text : Text}
    (h : (s.dashboard (.decisionModel decisions) r).on σ = (.ok text, σ')) :
    ∃ template original dashboard cursor, loadTemplate σ.files σ.home r.template = .ok template ∧
      Json.read (s.customized r σ template) = .ok (.obj original) ∧
      Document.parse text = .ok ⟨dashboard, cursor⟩ ∧
      IsDecisionDashboard s r decisions (Document.complete original) dashboard ∧
      ∃ messages, σ'.warnings = σ.warnings ++ messages ∧
        List.Forall₂ IsSkipWarning (decisions.filter fun d => !d.isSupported s.registry) messages := by
  have houtcome : s.outcome (.decisionModel decisions) r σ = .ok text := by
    rw [← dashboard_on_fst, h]
  obtain ⟨template, parsed, d, ts, hload, hparse, htitled, hts, hwrite⟩ :=
    exists_of_outcome_eq_ok houtcome
  have hwarnings := warnings_dashboard_of_ok s r σ decisions (congrArg Prod.fst h)
  rw [h, hts] at hwarnings
  obtain ⟨original, hread, hmembers⟩ := Document.parse_eq_ok_iff.1 hparse
  obtain ⟨-, y, -, rfl⟩ := Document.ofMembers_eq_ok_iff.1 hmembers
  obtain ⟨hsound, hdashboard⟩ :=
    isDecisionDashboard_of_edits (Document.isSound_of_parse hparse) htitled hts
  obtain ⟨-, y', hparsed⟩ := hsound.parse_of_serialize hwrite
  exact ⟨template, original, _, _, hload, hread, hparsed, hdashboard, _, hwarnings,
    forall₂_warnings hts⟩

/-! ### A small dashboard -/

/-- A session in which the file `t` holds an empty dashboard. -/
def smallSession : Session := { files := ⟨[(["t"], .file "\x7b\x7d".toUTF8)]⟩, home := [] }

def smallSynthesizer : Synthesizer := { identity := .fixed ⟨7, "u"⟩, metric := "m", indent := 2 }

def smallRequest : DashboardRequest :=
  { template := "t", name := "loan", endpoint := "e", build := ⟨"a", "1"⟩, auditLink := true }

/-- A decision of a supported type, and one that declares no type. -/
def smallDecisions : List Decision :=
  [{ name := "rate", identifier := "i", valueType := some "string" }, { name := "", identifier := "j" }]

theorem dashboard_decisionModel_spec_small : ∃ text dashboard cursor σ',
    (smallSynthesizer.dashboard (.decisionModel smallDecisions) smallRequest).on smallSession =
      (.ok text, σ') ∧ Document.parse text = .ok ⟨dashboard, cursor⟩ ∧
    dashboard.get? "title" = some (.str "loan - Domain Dashboard") ∧ σ'.warnings.length = 1 := by
  have hok : (smallSynthesizer.outcome (.decisionModel smallDecisions) smallRequest
      smallSession).isOk = true := by decide +kernel
  cases houtcome : smallSynthesizer.outcome (.decisionModel smallDecisions) smallRequest smallSession with
  | error failure =>
    rw [houtcome] at hok
    exact absurd hok (by simp [Except.isOk, Except.toBool])
  | ok text =>
    have hrun : (smallSynthesizer.dashboard (.decisionModel smallDecisions) smallRequest).on
        smallSession = (.ok text, _) := Prod.ext ((dashboard_on_fst _ _ _ _).trans houtcome) rfl
    obtain ⟨_, _, dashboard, cursor, -, -, hparse, hdashboard, messages, hwarnings, hmessages⟩ :=
      dashboard_decisionModel_spec hrun
    refine ⟨text, dashboard, cursor, _, hrun, hparse, hdashboard.title, ?_⟩
    rw [hwarnings, show smallSession.warnings = [] from rfl, List.nil_append, ← hmessages.length_eq]
    rfl

end Synthesizer

end DashboardSynthesis
