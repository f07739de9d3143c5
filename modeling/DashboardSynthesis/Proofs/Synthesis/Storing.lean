import DashboardSynthesis.Proofs.Command.Dashboard
import DashboardSynthesis.Proofs.Decision.Contents
import DashboardSynthesis.Proofs.Synthesis.DecisionDashboard

/-!
# Dashboards that can be stored

The text of a dashboard is stored in UTF-8, and a text with a surrogate cannot be.  The names that are given
for a dashboard hold none, nor does the text of a template; but an escape in the template does, once it has
been parsed, and writing does not bring the escape back.

So a dashboard can be stored exactly if no surrogate is in what it keeps of the parsed template: in any member
but the title, and in any link but those that the audit link replaces (`isStorable_iff_keptIsScalar`).
-/

namespace DashboardSynthesis

variable {text : Text}

/-- The text becomes a file, whatever the file is made for, and the file gives the text back. -/
def IsStorable (text : Text) : Prop :=
  ∀ flavor endpoint σ, ∃ file, (DashboardFile.ofDashboard flavor endpoint text).on σ = (.ok file, σ) ∧
    Text.decode? file.contents = some text

theorem isStorable_iff : IsStorable text ↔ text.IsScalar := by
  rw [← Text.encode?_isSome_iff]
  constructor
  · intro h
    obtain ⟨file, hfile, -⟩ := h .operational [] { files := ⟨[]⟩, home := [] }
    rw [DashboardFile.ofDashboard_on] at hfile
    cases hbytes : text.encode? with
    | some bytes => rfl
    | none =>
      rw [hbytes] at hfile
      exact absurd (Prod.mk.inj hfile).1 (by simp)
  · intro h flavor endpoint σ
    obtain ⟨bytes, hbytes⟩ := Option.isSome_iff_exists.1 h
    refine ⟨⟨flavor.path endpoint, bytes⟩, ?_, Text.decode?_of_encode? hbytes⟩
    rw [DashboardFile.ofDashboard_on, hbytes]

/-- What a dashboard keeps of a document holds no surrogate: the members but the title and, under an audit
link, the links that it does not replace. -/
structure Document.KeptIsScalar (d : Document) (auditLink : Bool) : Prop where
  members : ∀ m ∈ d.members, m.1 ≠ ("title" : Text) → (auditLink = true → m.1 ≠ ("links" : Text)) →
    m.1.IsScalar ∧ m.2.IsScalar
  links : auditLink = true → ∀ link ∈ d.links, Document.hasTitle auditLinkTitle link = false → link.IsScalar

theorem Document.keptIsScalar_iff {d : Document} {auditLink : Bool} : d.KeptIsScalar auditLink ↔
    (∀ m ∈ d.members, m.1 ≠ ("title" : Text) → (auditLink = true → m.1 ≠ ("links" : Text)) →
      m.1.IsScalar ∧ m.2.IsScalar) ∧
    (auditLink = true → ∀ link ∈ d.links, Document.hasTitle auditLinkTitle link = false → link.IsScalar) :=
  ⟨fun h => ⟨h.members, h.links⟩, fun h => ⟨h.1, h.2⟩⟩

instance (d : Document) (auditLink : Bool) : Decidable (d.KeptIsScalar auditLink) :=
  decidable_of_iff _ Document.keptIsScalar_iff.symm

namespace Synthesizer

/-- No name that is given for a dashboard holds a surrogate. -/
structure NamesAreScalar (s : Synthesizer) (flavor : Flavor) (r : DashboardRequest) : Prop where
  metric : s.metric.IsScalar
  name : r.name.IsScalar
  endpoint : r.endpoint.IsScalar
  artifactId : r.build.artifactId.IsScalar
  version : r.build.version.IsScalar
  decisions : ∀ d ∈ flavor.decisions, d.name.IsScalar

variable {s : Synthesizer} {flavor : Flavor} {r : DashboardRequest} {d d' final : Document} {title : Text}
  {σ : Session}

theorem isScalar_title (h : s.NamesAreScalar flavor r) : (r.title flavor).IsScalar := by
  have hend : flavor.titleEnd.IsScalar := by cases flavor <;> exact Text.isScalar_ofString _
  simp [DashboardRequest.title, h.name, hend]

/-- Title and audit link replace what they replace, and bring no surrogates. -/
theorem isScalar_titled_iff (hd : d.IsSound) (htitle : title.IsScalar) (h : titled? r title d = some d') :
    d'.IsScalar ↔ d.KeptIsScalar r.auditLink := by
  rw [titled?] at h
  split_ifs at h with hlink
  · rw [Document.isScalar_addLink_iff (hd.setTitle title) (Text.isScalar_ofString _)
      (Text.isScalar_ofString _) h, Document.links_setTitle, Document.setTitle]
    simp only [Json.Members.mem_set_iff hd.isNormal.1]
    constructor
    · rintro ⟨hlinks, hmembers⟩
      exact ⟨fun m hm htitle hne => hmembers m (.inr ⟨hm, htitle⟩) (hne hlink), fun _ => hlinks⟩
    · rintro ⟨hmembers, hlinks⟩
      refine ⟨hlinks hlink, ?_⟩
      rintro m (rfl | ⟨hm, hne⟩) hother
      · exact ⟨Text.isScalar_ofString _, htitle⟩
      · exact hmembers m hm hne fun _ => hother
  · obtain rfl := Option.some_inj.1 h
    rw [Document.isScalar_setTitle_iff hd htitle]
    constructor
    · intro hmembers
      exact ⟨fun m hm hne _ => hmembers m hm hne, fun h => absurd h hlink⟩
    · intro hkept m hm hne
      exact hkept.members m hm hne fun h => absurd h hlink

/-- The panels of decisions bring no surrogates. -/
theorem isScalar_extended_iff (hregistry : s.registry = Registry.standard)
    (hnames : s.NamesAreScalar flavor r) (hd : d.IsSound) (h : s.extended r d flavor = .ok final) :
    final.IsScalar ↔ d.IsScalar := by
  cases flavor with
  | operational | ruleUnit => rw [Except.ok.inj h]
  | decisionModel decisions =>
    rw [extended] at h
    split at h
    · next ts hts =>
      rw [← Except.ok.inj h]
      refine Document.isScalar_foldl_addPanel_iff hd fun content hcontent => ?_
      obtain ⟨d', hd', hshows⟩ := exists_of_mem_of_forall₂ (forall₂_panels hts) content hcontent
      have hname := hnames.decisions d' (List.mem_filter.1 hd').1
      exact hshows.isScalar (hregistry ▸ Registry.isScalar_standard) hnames.metric hnames.endpoint
        hnames.artifactId hnames.version hname
    · exact absurd h (by simp)

/-- **Which dashboards can be stored.** -/
theorem isStorable_iff_keptIsScalar (hregistry : s.registry = Registry.standard)
    (hnames : s.NamesAreScalar flavor r) (h : ((s.dashboard flavor r).on σ).1 = .ok text) :
    ∃ template d, loadTemplate σ.files σ.home r.template = .ok template ∧
      Document.parse (s.customized r σ template) = .ok d ∧
        (IsStorable text ↔ d.KeptIsScalar r.auditLink) := by
  rw [dashboard_on_fst] at h
  obtain ⟨template, parsed, titled, final, hload, hparse, htitled, hextended, hwrite⟩ :=
    exists_of_outcome h
  have hparsed := Document.isSound_of_parse hparse
  have hsound : titled.IsSound := (titled?_spec hparsed htitled).1
  refine ⟨template, parsed, hload, hparse, ?_⟩
  calc IsStorable text ↔ text.IsScalar := isStorable_iff
    _ ↔ final.IsScalar := Document.isScalar_of_serialize hwrite
    _ ↔ titled.IsScalar := isScalar_extended_iff hregistry hnames hsound hextended
    _ ↔ parsed.KeptIsScalar r.auditLink := isScalar_titled_iff hparsed (isScalar_title hnames) htitled

/-- A session in which the file `t` holds a text. -/
def templateSession (text : String) : Session :=
  { files := ⟨[(["t"], .file text.toUTF8)]⟩, home := [] }

def storingSynthesizer : Synthesizer := { identity := .fixed ⟨7, "u"⟩, metric := "m", indent := 2 }

def storingRequest : DashboardRequest :=
  { template := "t", name := "loan", endpoint := "e", build := ⟨"a", "1"⟩, auditLink := true }

/-- A template with surrogates where they are replaced, and with two that make one character. -/
def replacedSession : Session :=
  templateSession ("\x7b\"title\": \"\\ud800\", \"x\": \"\\ud83d\\ude00\", " ++
    "\"links\": [\x7b\"title\": \"Audit UI\", \"url\": \"\\udfff\"\x7d]\x7d")

/-- A decision that gets a panel. -/
def storedDecisions : List Decision := [{ name := "é", identifier := "i", valueType := some "number" }]

theorem namesAreScalar_storing :
    storingSynthesizer.NamesAreScalar (.decisionModel storedDecisions) storingRequest :=
  ⟨by decide, by decide, by decide, by decide, by decide, by decide⟩

theorem isStorable_iff_keptIsScalar_replaced :
    storingSynthesizer.registry = Registry.standard ∧
      storingSynthesizer.NamesAreScalar (.decisionModel storedDecisions) storingRequest ∧
      ∃ text, ((storingSynthesizer.dashboard (.decisionModel storedDecisions) storingRequest).on
        replacedSession).1 = .ok text ∧ IsStorable text := by
  have hmade : ((storingSynthesizer.dashboard (.decisionModel storedDecisions) storingRequest).on
      replacedSession).1.isOk = true := by decide +kernel
  obtain ⟨text, htext⟩ := exists_eq_ok_of_isOk hmade
  obtain ⟨template, d, hload, hparse, hiff⟩ := isStorable_iff_keptIsScalar rfl namesAreScalar_storing htext
  refine ⟨rfl, namesAreScalar_storing, text, htext, hiff.2 ?_⟩
  have hkept : (loadTemplate replacedSession.files replacedSession.home storingRequest.template).toOption.all
      (fun template => (Document.parse
        (storingSynthesizer.customized storingRequest replacedSession template)).toOption.all
          fun d => decide (d.KeptIsScalar storingRequest.auditLink)) = true := by decide +kernel
  rw [hload] at hkept
  simpa [Except.toOption, hparse] using hkept

/-- A template with a surrogate that stays. -/
def keptSession : Session := templateSession "\x7b\"s\": \"\\ud800\"\x7d"

/-- The surrogate stands in the text that is returned, which no file can hold. -/
theorem not_isStorable_surrogate :
    storingSynthesizer.NamesAreScalar .operational storingRequest ∧
      ∃ text, ((storingSynthesizer.dashboard .operational storingRequest).on keptSession).1 = .ok text ∧
        ¬ IsStorable text := by
  have hmade : ((storingSynthesizer.dashboard .operational storingRequest).on keptSession).1.toOption.any
      (fun text => decide ¬ text.IsScalar) = true := by decide +kernel
  obtain ⟨text, htext, hsurrogate⟩ := (Option.any_eq_true _ _).1 hmade
  refine ⟨⟨by decide, by decide, by decide, by decide, by decide, by decide⟩, text,
    eq_ok_of_toOption_eq_some htext, fun h => ?_⟩
  exact of_decide_eq_true hsurrogate (isStorable_iff.1 h)

end Synthesizer
end DashboardSynthesis
