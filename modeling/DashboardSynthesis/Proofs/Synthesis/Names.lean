import DashboardSynthesis.Proofs.Synthesis.Packaged
import DashboardSynthesis.Proofs.Template.Loading
import DashboardSynthesis.Proofs.Template.Room

/-!
# The names in a dashboard

The names of the endpoint and of the build come into the dashboard of a decision model in two ways.  In
the template's own panel they are inserted as they are, and in the panels of the decisions they are
quoted.  The dashboard is meant to select by the same names in both (`NamesAreMeant`).

With the packaged template it does so only if the names are plain (`agreesOnNames_iff`), which is to
say that they have no quotes, no backslashes and no control characters.  For others, the query that is
meant would not have fitted into the template, so it is not there, whatever else the text can be read as.
For plain names both ways give the same, unless two surrogates in a name make a pair: these stand next to
each other in the template's own panel, and in the panels of decisions they have become one.

The numbers of the dashboard have to be such that they can be written.
-/

namespace DashboardSynthesis

/-! ## What is meant -/

/-- The template's own panel, where the query may be spelled in any way by which it selects by the names
that are meant. -/
structure IsOwnPanel (r : DashboardRequest) (panel : Json) : Prop where
  query : ∃ selector, Document.queryOf? panel =
      some (("sum(increase(" : Text) ++ selector ++ ("[1h]))" : Text)) ∧
    PromQL.readSelector? selector =
      some (Library.ownMetric, Library.ownLabels r.endpoint r.build.artifactId r.build.version)
  others : ∀ key : Text, key ≠ "targets" → panel.get? key =
    (Library.ownPanel r.endpoint r.build.artifactId r.build.version).get? key

/-- Labels for the names of an endpoint and a build, and for a decision. -/
def labelsFor (endpoint artifactId version decision : Text) : List (Text × Text) :=
  [("endpoint", endpoint), ("decision", decision), ("artifactId", artifactId), ("version", version)]

/-- The query of the panel selects by the names that are meant: behind the metric and the brace, the
labels are read as these.  The metric and the name of the decision are no names of the endpoint and the
build, and surrogates in them may be joined. -/
def SelectsDecision (metric : Text) (r : DashboardRequest) (d : Decision) (panel : Json) : Prop :=
  ∃ type shape inside, d.localType? = some type ∧ PromQL.standardShape? type = some shape ∧
    Document.queryOf? panel =
      some (shape.before ++ Json.joined metric ++ shape.suffix ++ .scalar '{' :: inside) ∧
    PromQL.readMatchers? inside.length inside =
      some (labelsFor r.endpoint r.build.artifactId r.build.version (Json.joined d.name), shape.behind)

/-- No two surrogates in a name of the endpoint or of the build make a pair. -/
structure NamesAreUnpaired (r : DashboardRequest) : Prop where
  endpoint : r.endpoint.IsUnpaired
  artifactId : r.build.artifactId.IsUnpaired
  version : r.build.version.IsUnpaired

/-- The dashboard of a decision model from the packaged template, with all names as they are meant. -/
structure NamesAreMeant (metric : Text) (r : DashboardRequest) (identity : Identity)
    (decisions : List Decision) (dashboard : Json.Members) : Prop where
  keys : dashboard.keys =
    (Library.domainMembers r.endpoint r.build.artifactId r.build.version identity).keys
  title : dashboard.get? "title" = some (.str (r.name ++ (" - Domain Dashboard" : Text)))
  links : dashboard.get? "links" = some (.arr (Library.auditLinks r))
  panels : ∃ own generated, dashboard.get? "panels" = some (.arr (own :: generated)) ∧
    IsOwnPanel r own ∧ List.Forall₂ (SelectsDecision metric r)
      (decisions.filter (Decision.isSupported Registry.standard)) generated
  others : ∀ key : Text, key ≠ "title" → key ≠ "links" → key ≠ "panels" → dashboard.get? key =
    (Library.domainMembers r.endpoint r.build.artifactId r.build.version identity).get? key

/-- The synthesis returns a text, and it is read as a dashboard with all names as they are meant. -/
def Synthesizer.AgreesOnNames (s : Synthesizer) (r : DashboardRequest) (decisions : List Decision)
    (σ : Session) : Prop :=
  ∃ text dashboard cursor, ((s.dashboard (.decisionModel decisions) r).on σ).1 = .ok text ∧
    Document.parse text = .ok ⟨dashboard, cursor⟩ ∧
    NamesAreMeant s.metric r (s.nextIdentity σ) decisions dashboard

/-- The numbers of a dashboard with so many panels for decisions can be written. -/
structure Synthesizer.NumbersAreWritable (s : Synthesizer) (σ : Session) (panels : ℕ) : Prop where
  id : s.idIsPrintable σ = true
  width : Document.isWidth s.indent = true
  lastRow : (Json.int (Document.lastRow panels)).isPrintable = true

/-! ## Plain names -/

theorem isOwnPanel_ownPanel (r : DashboardRequest) :
    IsOwnPanel r (Library.ownPanel r.endpoint r.build.artifactId r.build.version) := by
  refine ⟨⟨_, rfl, PromQL.readSelector?_renderSelector (by decide) ?_⟩, fun _ _ => rfl⟩
  simp only [Library.ownLabels, List.forall_mem_cons]
  exact ⟨by decide, by decide, by decide, fun _ h => absurd h List.not_mem_nil⟩

theorem isLabelName_labelsFor (endpoint artifactId version decision : Text) :
    ∀ l ∈ labelsFor endpoint artifactId version decision, PromQL.IsLabelName l.1 := by
  simp only [labelsFor, List.forall_mem_cons]
  exact ⟨by decide, by decide, by decide, by decide, fun _ h => absurd h List.not_mem_nil⟩

/-- What stands around a selector holds no surrogates. -/
theorem isScalar_of_standardShape? {type : Text} {shape : PromQL.Shape}
    (h : PromQL.standardShape? type = some shape) :
    shape.before.IsScalar ∧ shape.suffix.IsScalar ∧ shape.behind.IsScalar := by
  rw [PromQL.standardShape?] at h
  split_ifs at h <;> rw [← Option.some_inj.1 h] <;> simp

/-- The query of the panel of a decision, with its surrogates joined. -/
theorem exists_queryOf?_eq {metric : Text} {r : DashboardRequest} {d : Decision} {panel : Json}
    (h : IsDecisionPanel Registry.standard metric r.endpoint r.build d panel) :
    ∃ type shape, d.localType? = some type ∧ PromQL.standardShape? type = some shape ∧
      Document.queryOf? panel = some (shape.before ++ Json.joined metric ++ shape.suffix ++ .scalar '{' ::
        PromQL.labelsText (labelsFor (Json.joined r.endpoint) (Json.joined r.build.artifactId)
          (Json.joined r.build.version) (Json.joined d.name)) (.scalar '}' :: shape.behind)) := by
  obtain ⟨type, function, query, htype, hfunction, hquery, hpanel⟩ := h.query
  obtain ⟨shape, hshape, hrender⟩ := PromQL.render_standard hfunction
  obtain ⟨hbefore, hsuffix, hbehind⟩ := isScalar_of_standardShape? hshape
  have hlabels : ∀ l ∈ labelsFor r.endpoint r.build.artifactId r.build.version d.name, l.1.IsScalar := by
    simp only [labelsFor, List.forall_mem_cons]
    exact ⟨by decide, by decide, by decide, by decide, fun _ h => absurd h List.not_mem_nil⟩
  have hne : labelsFor r.endpoint r.build.artifactId r.build.version d.name ≠ [] := List.cons_ne_nil _ _
  have htext : query = shape.before ++ (metric ++ (shape.suffix ++ .scalar '{' ::
      PromQL.labelsText (labelsFor r.endpoint r.build.artifactId r.build.version d.name)
        (.scalar '}' :: shape.behind))) := by
    have hselector := PromQL.renderSelector_append hne (metric ++ shape.suffix) shape.behind
    rw [List.append_assoc metric] at hselector
    rw [← hselector, ← List.append_assoc]
    exact (Except.ok.inj ((hrender _ _).symm.trans hquery)).symm
  have hhead : ∀ c ∈ (shape.suffix ++ .scalar '{' :: PromQL.labelsText
      (labelsFor r.endpoint r.build.artifactId r.build.version d.name)
        (.scalar '}' :: shape.behind)).head?, c.isScalar = true := by
    intro c hc
    cases hshape : shape.suffix with
    | nil =>
      rw [hshape] at hc
      rw [← Option.some_inj.1 hc]
      rfl
    | cons first rest =>
      rw [hshape] at hc hsuffix
      rw [← Option.some_inj.1 hc]
      exact hsuffix first List.mem_cons_self
  refine ⟨type, shape, htype, hshape, ?_⟩
  rw [hpanel, htext, Json.joined_append_of_isScalar hbefore, Json.joined_append_of_head hhead,
    Json.joined_append_of_isScalar hsuffix, Json.joined_scalar_cons, Json.joined_labelsText hlabels,
    Json.joined_scalar_cons, Json.joined_of_isScalar hbehind]
  simp [labelsFor]

/-- **The panel of a decision selects by the names that are meant** exactly if no pair is in them. -/
theorem selectsDecision_iff {metric : Text} {r : DashboardRequest} {d : Decision} {panel : Json}
    (h : IsDecisionPanel Registry.standard metric r.endpoint r.build d panel) :
    SelectsDecision metric r d panel ↔ NamesAreUnpaired r := by
  obtain ⟨type, shape, htype, hshape, hpanel⟩ := exists_queryOf?_eq h
  have hread := PromQL.readMatchers?_labelsText (List.cons_ne_nil _ _)
    (isLabelName_labelsFor (Json.joined r.endpoint) (Json.joined r.build.artifactId)
      (Json.joined r.build.version) (Json.joined d.name)) shape.behind
    (PromQL.length_le_labelsText _ (.scalar '}' :: shape.behind))
  constructor
  · rintro ⟨type', shape', inside, htype', hshape', hpanel', hread'⟩
    obtain rfl := Option.some_inj.1 (htype.symm.trans htype')
    obtain rfl := Option.some_inj.1 (hshape.symm.trans hshape')
    have hquery := Option.some_inj.1 (hpanel.symm.trans hpanel')
    obtain rfl := (List.cons.inj (List.append_cancel_left hquery)).2
    have hlabels := (Prod.mk.inj (Option.some_inj.1 (hread.symm.trans hread'))).1
    simp only [labelsFor, List.cons.injEq, Prod.mk.injEq, true_and, and_true] at hlabels
    exact ⟨Json.joined_eq_self_iff.1 hlabels.1, Json.joined_eq_self_iff.1 hlabels.2.1,
      Json.joined_eq_self_iff.1 hlabels.2.2⟩
  · intro hunpaired
    rw [Json.joined_eq_self_iff.2 hunpaired.endpoint, Json.joined_eq_self_iff.2 hunpaired.artifactId,
      Json.joined_eq_self_iff.2 hunpaired.version] at hpanel hread
    exact ⟨type, shape, _, htype, hshape, hpanel, hread⟩

theorem namesAreMeant_domainDashboard {metric : Text} {r : DashboardRequest} {identity : Identity}
    {decisions : List Decision} {ts : List Treatment}
    (hts : treatAll Registry.standard metric r.endpoint r.build decisions = (ts, none))
    (hunpaired : decisions.filter (Decision.isSupported Registry.standard) ≠ [] → NamesAreUnpaired r) :
    NamesAreMeant metric r identity decisions (Library.domainDashboard r
      (r.title (.decisionModel decisions)) identity (ts.filterMap Treatment.content?)) := by
  have hkeys : ∀ v, ((Library.titledMembers r (r.title (.decisionModel decisions)) identity).set
      "panels" v).keys = (Library.titledMembers r (r.title (.decisionModel decisions)) identity).keys :=
    fun v => Document.keys_set_of_get? rfl v
  refine ⟨?_, ?_, ?_, ⟨_, _, Json.Members.get?_set_self _ _ _, isOwnPanel_ownPanel r, ?_⟩, ?_⟩
  · rw [Library.domainDashboard, hkeys, Library.titledMembers, Document.keys_set_of_get? rfl,
      Document.keys_set_of_get? rfl]
  · have htitle : r.title (.decisionModel decisions) = r.name ++ (" - Domain Dashboard" : Text) :=
      List.append_assoc _ _ _
    rw [← htitle, Library.domainDashboard, Json.Members.get?_set_of_ne _ _ (by decide),
      Library.titledMembers, Json.Members.get?_set_of_ne _ _ (by decide)]
    exact Json.Members.get?_set_self _ _ _
  · rw [Library.domainDashboard, Json.Members.get?_set_of_ne _ _ (by decide)]
    exact Json.Members.get?_set_self _ _ _
  · have hall := (List.forall₂_and_left _ _).2
      ⟨fun d hd => hunpaired (List.ne_nil_of_mem hd), forall₂_panels hts⟩
    refine forall₂_comp ?_ hall (Document.forall₂_generated _ _ _ _)
    rintro d content panel ⟨hnames, hcontent⟩ ⟨id, place, datasource, rfl⟩
    exact (selectsDecision_iff (isDecisionPanel_toJson hcontent id place datasource)).2 hnames
  · intro key h1 h2 h3
    rw [Library.domainDashboard, Json.Members.get?_set_of_ne _ _ h3, Library.titledMembers,
      Json.Members.get?_set_of_ne _ _ h2, Json.Members.get?_set_of_ne _ _ h1]

/-! ## Names that are read back -/

/-- If the template's own panel in the customized text selects by the names that are meant, then they are
plain. -/
theorem namesArePlain_of_read {r : DashboardRequest} {identity : Identity} (huid : identity.uid.IsPlain)
    {original : Json.Members}
    (hread : Json.read (customize (markerValue r.endpoint r.build.artifactId r.build.version identity)
      Library.domainTemplate) = .ok (.obj original))
    {own : Json} (hpanels : (Document.complete original).get? "panels" = some (.arr [own]))
    (hown : IsOwnPanel r own) : NamesArePlain r := by
  have heach := (Json.each_readFrom_of_read hread).1
  have hlists := Json.eachMember_setDefault (Json.eachMember_setDefault heach.2 "panels" (v := .arr [])
    ⟨trivial, trivial⟩) "links" (v := .arr []) ⟨trivial, trivial⟩
  obtain ⟨selector, hquery, hselector⟩ := hown.query
  have hexpr := Document.of_queryOf? (Json.Each.get? hlists hpanels).2.1 hquery
  obtain ⟨hendpoint, hartifact, hversion⟩ := Library.isPlain_of_readFrom huid hexpr hselector
  exact ⟨hendpoint, hartifact, hversion⟩

namespace Synthesizer

variable {s : Synthesizer} {r : DashboardRequest} {σ : Session} {decisions : List Decision}

/-- Only with a printable id is there a text at all. -/
theorem idIsPrintable_of_outcome {flavor : Flavor} {template text : Text}
    (hload : loadTemplate σ.files σ.home r.template = .ok template)
    (h : s.outcome flavor r σ = .ok text) : s.idIsPrintable σ = true := by
  by_contra hid
  have hbroken : s.edited flavor r σ = _ := edited_of_not_idIsPrintable hload hid
  exact absurd (h.symm.trans (outcome_of_edited_error hbroken)) (by simp)

/-- If the names are as they are meant, then they are plain, and if there is a panel of a decision no pair
is in them. -/
theorem AgreesOnNames.names (hregistry : s.registry = Registry.standard)
    (hload : loadTemplate σ.files σ.home r.template = .ok Library.domainTemplate)
    (huid : (s.identity.uid σ.uidsDrawn).IsPlain) (h : s.AgreesOnNames r decisions σ) :
    NamesArePlain r ∧
      (decisions.filter (Decision.isSupported Registry.standard) ≠ [] → NamesAreUnpaired r) := by
  obtain ⟨text, dashboard, cursor, hrun, hdashboard, hnames⟩ := h
  rw [dashboard_on_fst] at hrun
  obtain ⟨template, parsed, d, ts, hload', hparse, htitled, hts, hwrite⟩ :=
    exists_of_outcome_eq_ok hrun
  obtain rfl := Except.ok.inj (hload.symm.trans hload')
  obtain ⟨hsound, hedits⟩ :=
    isDecisionDashboard_of_edits (Document.isSound_of_parse hparse) htitled hts
  obtain ⟨-, y, hfinal⟩ := hsound.parse_of_serialize hwrite
  obtain ⟨hmembers, -⟩ := Document.mk.inj (Except.ok.inj (hfinal.symm.trans hdashboard))
  obtain ⟨panels, generated, hpanels, hall, hgenerated⟩ := hedits.panels
  obtain ⟨own, generated', hall', hown, hgenerated'⟩ := hnames.panels
  rw [hmembers, hall', Option.some_inj, Json.arr.injEq] at hall
  rw [hregistry] at hgenerated
  -- as many panels were generated as are meant, so the template has just the one that is left
  have hlength : generated'.length = generated.length :=
    hgenerated'.length_eq.symm.trans hgenerated.length_eq
  obtain ⟨rfl, rfl⟩ : [own] = panels ∧ generated' = generated := List.append_inj' hall hlength
  refine ⟨?_, fun hsome => ?_⟩
  case refine_2 =>
    obtain ⟨decision, hdecision⟩ := List.exists_mem_of_ne_nil _ hsome
    obtain ⟨panel, -, hpanel, hselects⟩ :=
      exists_of_mem_of_forall₂ (hgenerated.mp (fun _ _ => And.intro) hgenerated').flip decision hdecision
    exact (selectsDecision_iff hpanel).1 hselects
  obtain ⟨original, hread, hparsed⟩ := Document.parse_eq_ok_iff.1 hparse
  obtain ⟨-, y', -, rfl⟩ := Document.ofMembers_eq_ok_iff.1 hparsed
  exact namesArePlain_of_read huid hread hpanels hown

/-- If the names are plain without pairs and there is a text, then they are as they are meant. -/
theorem agreesOnNames_of_outcome {identity : IdentitySource} {metric : Text} {indent : ℤ}
    {ts : List Treatment} {text : Text}
    (hload : loadTemplate σ.files σ.home r.template = .ok Library.domainTemplate)
    (hnames : NamesArePlain r)
    (hunpaired : decisions.filter (Decision.isSupported Registry.standard) ≠ [] → NamesAreUnpaired r)
    (huid : (identity.uid σ.uidsDrawn).IsPlain)
    (hid : idIsPrintable { identity, metric, indent } σ = true)
    (hts : treatAll Registry.standard metric r.endpoint r.build decisions = (ts, none))
    (h : outcome { identity, metric, indent } (.decisionModel decisions) r σ = .ok text) :
    AgreesOnNames { identity, metric, indent } r decisions σ := by
  have hparse := parse_customized_domainTemplate hnames huid hid
  have hedited := edited_domainTemplate (s := { identity, metric, indent }) hload hnames huid hid hts
  have htitled := Library.titled?_domainDocument r (r.title (.decisionModel decisions))
    (nextIdentity { identity, metric, indent } σ)
  have hsound := (isDecisionDashboard_of_edits (s := { identity, metric, indent })
    (Document.isSound_of_parse hparse) htitled hts).1
  rw [outcome_of_edited hedited] at h
  obtain ⟨-, y, hfinal⟩ := hsound.parse_of_serialize (eq_ok_of_mapError_eq_ok h)
  refine ⟨text, _, _, ?_, hfinal, ?_⟩
  · rw [dashboard_on_fst, outcome_of_edited hedited, h]
  · rw [Library.members_addPanels_titledMembers]
    exact namesAreMeant_domainDashboard hts hunpaired

/-! ## The whole -/

/-- **Names in the packaged template.**  With the standard registry and a plain uid, such as a UUID, the
names in the dashboard of a decision model are as they are meant exactly if they are plain, no surrogates in
them make a pair where there is a panel of a decision, and the numbers can be written. -/
theorem agreesOnNames_iff (identity : IdentitySource) (metric : Text) (indent : ℤ)
    (r : DashboardRequest) (decisions : List Decision) (σ : Session)
    (hload : loadTemplate σ.files σ.home r.template = .ok Library.domainTemplate)
    (huid : (identity.uid σ.uidsDrawn).IsPlain) :
    AgreesOnNames { identity, metric, indent } r decisions σ ↔ NamesArePlain r ∧
      (decisions.filter (Decision.isSupported Registry.standard) ≠ [] → NamesAreUnpaired r) ∧
        NumbersAreWritable { identity, metric, indent } σ
          (decisions.filter (Decision.isSupported Registry.standard)).length := by
  obtain ⟨ts, hts⟩ : ∃ ts,
      treatAll Registry.standard metric r.endpoint r.build decisions = (ts, none) :=
    ⟨_, Prod.ext rfl (treatAll_standard decisions)⟩
  have hwritten := fun hnames hid => exists_outcome_iff (s := { identity, metric, indent }) hload hnames
    huid hid hts
  constructor
  · intro h
    obtain ⟨hnames, hunpaired⟩ := h.names rfl hload huid
    obtain ⟨text, -, -, hrun, -⟩ := h
    rw [dashboard_on_fst] at hrun
    have hid := idIsPrintable_of_outcome hload hrun
    obtain ⟨hwidth, hlast⟩ := (hwritten hnames hid).1 ⟨text, hrun⟩
    exact ⟨hnames, hunpaired, hid, hwidth, hlast⟩
  · rintro ⟨hnames, hunpaired, hid, hwidth, hlast⟩
    obtain ⟨text, hrun⟩ := (hwritten hnames hid).2 ⟨hwidth, hlast⟩
    exact agreesOnNames_of_outcome hload hnames hunpaired huid hid hts hrun

/-! ### A plain name, and one with a quote -/

/-- A session without files, so that there is only the packaged template. -/
def packagedSession : Session := { files := ⟨[]⟩, home := [] }

/-- A request for a dashboard from the packaged template. -/
def packagedRequest (endpoint : Text) : DashboardRequest :=
  { template := Library.domainName, name := "loan", endpoint, build := ⟨"loans", "1.0"⟩ }

/-- A source of identities with a uid in the usual form. -/
def uuidSource : IdentitySource := .fixed ⟨7, "1b4e28ba-2fa1-4d11-883f-0016d3cca427"⟩

theorem loadTemplate_packagedRequest (endpoint : Text) :
    loadTemplate packagedSession.files packagedSession.home (packagedRequest endpoint).template =
      .ok Library.domainTemplate :=
  Library.loadTemplate_domainName rfl

theorem agreesOnNames_plain :
    AgreesOnNames { identity := uuidSource, metric := "m", indent := 2 } (packagedRequest "LoanRate")
      smallDecisions packagedSession := by
  refine (agreesOnNames_iff uuidSource "m" 2 (packagedRequest "LoanRate") smallDecisions packagedSession
    (loadTemplate_packagedRequest _) (by decide)).2 ⟨⟨?_, ?_, ?_⟩, fun _ => ⟨?_, ?_, ?_⟩, ?_, ?_, ?_⟩
  all_goals decide

theorem not_agreesOnNames_quote :
    ¬ AgreesOnNames { identity := uuidSource, metric := "m", indent := 2 } (packagedRequest "Loan\"Rate")
      smallDecisions packagedSession := by
  intro h
  have hnames := h.names rfl (loadTemplate_packagedRequest _) (by decide)
  exact absurd hnames.1.endpoint (by decide)

end Synthesizer

end DashboardSynthesis
