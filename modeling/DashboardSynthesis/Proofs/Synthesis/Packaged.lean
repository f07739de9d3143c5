import DashboardSynthesis.Proofs.Synthesis.DecisionDashboard
import DashboardSynthesis.Proofs.Synthesis.Failures
import DashboardSynthesis.Proofs.Template.Domain

/-!
# Dashboards from the packaged template

If the names of the endpoint and of the build are plain, then the dashboard of a decision model from the
packaged template is known member by member: it is `Library.domainDashboard` with the panels of the
decisions (`exists_edited_of_namesArePlain`).  It is neither too deep nor, but for the lowest row of the
panels, too large in its numbers, so whether it can be written depends on this row and on the width of
the indentation (`exists_outcome_iff`).
-/

namespace DashboardSynthesis

/-! ## Limits of generated panels -/

namespace Document

/-- The row of the last of so many panels that are added below a panel of four rows. -/
def lastRow (panels : ℕ) : ℤ := 4 + 8 * ((panels - 1) / 2 : ℕ)

theorem isPrintable_place_iff {place : Grid.Place} (hx : place.x < 24) :
    place.toJson.isPrintable = true ↔ (Json.int place.y).isPrintable = true := by
  have hcolumn : (Json.int place.x).isPrintable = true :=
    Json.isPrintable_int_of_le (n := 24) (by omega) rfl
  have hheight : (Json.int Grid.panelHeight).isPrintable = true := rfl
  have hwidth : (Json.int Grid.panelWidth).isPrintable = true := rfl
  show Json.membersArePrintable _ = true ↔ _
  rw [Json.membersArePrintable_iff]
  simp [hcolumn, hheight, hwidth]

/-- Panels with a datasource that can be written can be written themselves if the last row can. -/
theorem forall_isPrintable_generated_iff (datasource : Option Json)
    (hdatasource : datasource.all Json.isPrintable = true) (contents : List PanelContent) :
    (∀ panel ∈ generated datasource 2 ⟨0, 4⟩ contents, panel.isPrintable = true) ↔
      (Json.int (lastRow contents.length)).isPrintable = true := by
  have hplace : ∀ k : ℕ, (Grid.Cursor.next^[k] ⟨0, 4⟩).place.toJson.isPrintable = true ↔
      (Json.int (4 + 8 * (k / 2 : ℕ))).isPrintable = true := by
    intro k
    rw [Grid.Cursor.place_iterate_next]
    exact isPrintable_place_iff (by dsimp only; omega)
  rw [forall_generated_iff]
  constructor
  · intro h
    cases hcontents : contents.length with
    | zero => rfl
    | succ k =>
      have hk : k < contents.length := by omega
      have hlast := h k contents[k] (List.getElem?_eq_getElem hk)
      rw [isPrintable_toJson_iff, hplace] at hlast
      exact hlast.2.1
  · intro h k content hk
    have hlt : k < contents.length := (List.getElem?_eq_some_iff.1 hk).1
    rw [isPrintable_toJson_iff, hplace]
    refine ⟨Json.isPrintable_int_of_le ?_ h, Json.isPrintable_int_of_le ?_ h, hdatasource⟩
    · rw [lastRow]
      omega
    · rw [lastRow]
      omega

end Document

/-! ## The packaged template as a document -/

namespace Library

section Domain

variable (endpoint artifactId version : Text) (identity : Identity)

/-- The packaged template as a document: the next panel goes below its own panel. -/
def domainDocument : Document := ⟨domainMembers endpoint artifactId version identity, ⟨0, 4⟩⟩

theorem ofMembers_domainMembers :
    Document.ofMembers (domainMembers endpoint artifactId version identity) =
      .ok (domainDocument endpoint artifactId version identity) := rfl

theorem nextPanelId_of_panels {d : Document} (h : d.panels = [ownPanel endpoint artifactId version]) :
    d.nextPanelId = 2 := by
  rw [Document.nextPanelId, h]
  rfl

theorem defaultDatasource?_of_panels {d : Document}
    (h : d.panels = [ownPanel endpoint artifactId version]) :
    d.defaultDatasource? = some (.str "Prometheus") := by
  rw [Document.defaultDatasource?, h]
  rfl

theorem membersArePrintable_domainMembers (h : (Json.int identity.id).isPrintable = true) :
    Json.membersArePrintable (domainMembers endpoint artifactId version identity) = true := by
  rw [Json.membersArePrintable_iff, domainMembers]
  simp only [List.forall_mem_cons]
  exact ⟨rfl, rfl, rfl, h, rfl, rfl, rfl, rfl, rfl, rfl, rfl, rfl, rfl, rfl, fun _ => by simp⟩

end Domain

/-- The audit link, if it is asked for. -/
def auditLinks (r : DashboardRequest) : List Json :=
  if r.auditLink then [Document.linkTo auditLinkTitle auditLinkUrl] else []

/-- The packaged template with title and link. -/
def titledMembers (r : DashboardRequest) (title : Text) (identity : Identity) : Json.Members :=
  ((domainMembers r.endpoint r.build.artifactId r.build.version identity).set "title"
    (.str title)).set "links" (.arr (auditLinks r))

theorem titled?_domainDocument (r : DashboardRequest) (title : Text) (identity : Identity) :
    Synthesizer.titled? r title
        (domainDocument r.endpoint r.build.artifactId r.build.version identity) =
      some ⟨titledMembers r title identity, ⟨0, 4⟩⟩ := by
  rw [Synthesizer.titled?, titledMembers, auditLinks]
  by_cases haudit : r.auditLink = true
  · rw [if_pos haudit, if_pos haudit]
    rfl
  · rw [if_neg haudit, if_neg haudit, Json.Members.set_of_get? rfl]
    rfl

/-- The dashboard that comes from the packaged template, with panels for contents. -/
def domainDashboard (r : DashboardRequest) (title : Text) (identity : Identity)
    (contents : List PanelContent) : Json.Members :=
  (titledMembers r title identity).set "panels" (.arr
    (ownPanel r.endpoint r.build.artifactId r.build.version ::
      Document.generated (some (.str "Prometheus")) 2 ⟨0, 4⟩ contents))

section Dashboard

variable (r : DashboardRequest) (title : Text) (identity : Identity) (contents : List PanelContent)

theorem members_addPanels_titledMembers :
    (contents.foldl Document.addPanel ⟨titledMembers r title identity, ⟨0, 4⟩⟩).members =
      domainDashboard r title identity contents := by
  have hpanels : Document.panels ⟨titledMembers r title identity, ⟨0, 4⟩⟩ =
      [ownPanel r.endpoint r.build.artifactId r.build.version] := rfl
  rw [Document.members_addPanels (by rw [hpanels]; rfl), nextPanelId_of_panels _ _ _ hpanels,
    defaultDatasource?_of_panels _ _ _ hpanels, hpanels]
  rfl

/-- The dashboard keeps the limit of nesting. -/
theorem depth_domainDashboard_le :
    (Json.obj (domainDashboard r title identity contents)).depth ≤ Json.nestingLimit := by
  have hlinks : (Json.arr (auditLinks r)).depth ≤ 5 := by
    rw [auditLinks]
    split <;> decide
  have hpanels : (Json.arr (ownPanel r.endpoint r.build.artifactId r.build.version ::
      Document.generated (some (.str "Prometheus")) 2 ⟨0, 4⟩ contents)).depth ≤ 5 := by
    have hown : (ownPanel r.endpoint r.build.artifactId r.build.version).depth = 3 := rfl
    refine Nat.succ_le_succ (Json.itemsDepth_le_iff.2 (List.forall_mem_cons.2 ⟨by omega, ?_⟩))
    rw [Document.forall_generated_iff]
    intro k content _
    refine Document.depth_toJson_le (n := 0) fun v hv => ?_
    rw [← Option.some_inj.1 hv]
    rfl
  have hmembers : Json.membersDepth (domainDashboard r title identity contents) ≤ 5 := by
    refine Json.membersDepth_set (Json.membersDepth_set (Json.membersDepth_set ?_ ?_) hlinks) hpanels
    · exact (Nat.le_of_eq (Nat.succ.inj depth_domainMembers)).trans (by decide)
    · exact Nat.zero_le 5
  exact (Nat.succ_le_succ hmembers).trans (by decide)

/-- Its numbers can be written if the last row can. -/
theorem isPrintable_domainDashboard_iff (hid : (Json.int identity.id).isPrintable = true) :
    (Json.obj (domainDashboard r title identity contents)).isPrintable = true ↔
      (Json.int (Document.lastRow contents.length)).isPrintable = true := by
  rw [← Document.forall_isPrintable_generated_iff (some (.str "Prometheus")) rfl]
  constructor
  · intro h
    have hpanels := Json.isPrintable_of_get? h (Json.Members.get?_set_self _ ("panels" : Text) _)
    exact (List.forall_mem_cons.1 (Json.itemsArePrintable_iff.1 hpanels)).2
  · intro h
    have hlinks : (Json.arr (auditLinks r)).isPrintable = true := by
      rw [auditLinks]
      split <;> rfl
    refine Json.membersArePrintable_set (Json.membersArePrintable_set (Json.membersArePrintable_set
      (membersArePrintable_domainMembers _ _ _ _ hid) _ rfl) _ hlinks) _ ?_
    exact Json.itemsArePrintable_iff.2 (List.forall_mem_cons.2 ⟨rfl, h⟩)

end Dashboard

end Library

/-! ## Synthesizing it -/

/-- The names of the endpoint and of the build can stand in a string as they are. -/
structure NamesArePlain (r : DashboardRequest) : Prop where
  endpoint : r.endpoint.IsPlain
  artifactId : r.build.artifactId.IsPlain
  version : r.build.version.IsPlain

namespace Synthesizer

/-- The identity that the next customization draws. -/
def nextIdentity (s : Synthesizer) (σ : Session) : Identity :=
  ⟨s.identity.id σ.idsDrawn, s.identity.uid σ.uidsDrawn⟩

variable {s : Synthesizer} {r : DashboardRequest} {σ : Session} {decisions : List Decision}
  {ts : List Treatment}

theorem parse_customized_domainTemplate (hnames : NamesArePlain r)
    (huid : (s.identity.uid σ.uidsDrawn).IsPlain) (hid : s.idIsPrintable σ = true) :
    Document.parse (s.customized r σ Library.domainTemplate) = .ok (Library.domainDocument r.endpoint
      r.build.artifactId r.build.version (s.nextIdentity σ)) := by
  have hread : Json.read (s.customized r σ Library.domainTemplate) = _ :=
    Library.read_customize_domainTemplate hnames.endpoint hnames.artifactId hnames.version hid huid
  exact Document.parse_eq_ok_iff.2 ⟨_, hread, Library.ofMembers_domainMembers _ _ _ _⟩

/-- What is written if the names are plain. -/
theorem edited_domainTemplate
    (hload : loadTemplate σ.files σ.home r.template = .ok Library.domainTemplate)
    (hnames : NamesArePlain r) (huid : (s.identity.uid σ.uidsDrawn).IsPlain)
    (hid : s.idIsPrintable σ = true)
    (hts : treatAll s.registry s.metric r.endpoint r.build decisions = (ts, none)) :
    s.edited (.decisionModel decisions) r σ = .ok ((ts.filterMap Treatment.content?).foldl
      Document.addPanel ⟨Library.titledMembers r (r.title (.decisionModel decisions))
        (s.nextIdentity σ), ⟨0, 4⟩⟩) := by
  rw [edited_of_parse hload hid (parse_customized_domainTemplate hnames huid hid),
    Library.titled?_domainDocument]
  dsimp only
  rw [extended, hts]
  rfl

/-- It can be written if the indentation is a width and the last row can be written. -/
theorem exists_outcome_iff
    (hload : loadTemplate σ.files σ.home r.template = .ok Library.domainTemplate)
    (hnames : NamesArePlain r) (huid : (s.identity.uid σ.uidsDrawn).IsPlain)
    (hid : s.idIsPrintable σ = true)
    (hts : treatAll s.registry s.metric r.endpoint r.build decisions = (ts, none)) :
    (∃ text, s.outcome (.decisionModel decisions) r σ = .ok text) ↔
      Document.isWidth s.indent = true ∧ (Json.int (Document.lastRow
        (decisions.filter (Decision.isSupported s.registry)).length)).isPrintable = true := by
  have hnumbers := Library.isPrintable_domainDashboard_iff r
    (r.title (.decisionModel decisions)) (s.nextIdentity σ) (ts.filterMap Treatment.content?) hid
  rw [outcome_of_edited (edited_domainTemplate hload hnames huid hid hts), exists_mapError_eq_ok_iff,
    Document.exists_serialize_iff, Library.members_addPanels_titledMembers, hnumbers,
    (forall₂_panels hts).length_eq]
  simp [Library.depth_domainDashboard_le]

end Synthesizer

end DashboardSynthesis
