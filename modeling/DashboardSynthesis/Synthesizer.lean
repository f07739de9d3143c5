import DashboardSynthesis.Decision.Treatment
import DashboardSynthesis.Session

/-!
# Synthesizing dashboards

A dashboard is made from a template in steps that are the same for every flavor: the template is
read, its markers are replaced, the outcome is parsed, given its title and, if asked for, the audit
link; for a decision model it gets a panel for each decision of a supported type; then it is written
as text.  Each customization draws one identity, and a template that cannot be read draws none.
-/

namespace DashboardSynthesis

/-- Where identities come from: the ids and the uids in the order in which they are drawn. -/
structure IdentitySource where
  id : Nat → Int
  uid : Nat → Text

/-- The source that gives the same identity every time. -/
def IdentitySource.fixed (identity : Identity) : IdentitySource :=
  ⟨fun _ => identity.id, fun _ => identity.uid⟩

/-- Draws an identity.  The id is drawn, and has to be printable, before the uid is. -/
def IdentitySource.draw (source : IdentitySource) : Run Identity := do
  let s ← get
  set { s with idsDrawn := s.idsDrawn + 1 }
  if (Json.int (source.id s.idsDrawn)).isPrintable then
    set { s with idsDrawn := s.idsDrawn + 1, uidsDrawn := s.uidsDrawn + 1 }
    pure ⟨source.id s.idsDrawn, source.uid s.uidsDrawn⟩
  else Run.breakWith (.tooManyDigits none)

/-- The flavors of dashboards, with what they need. -/
inductive Flavor where
  | operational
  /-- The domain dashboard of a decision model. -/
  | decisionModel (decisions : List Decision)
  /-- The domain dashboard of a rule unit. -/
  | ruleUnit

/-- What the title of a dashboard ends with. -/
def Flavor.titleEnd : Flavor → Text
  | operational => "Operational Dashboard"
  | decisionModel _ | ruleUnit => "Domain Dashboard"

/-- What a dashboard is asked for. -/
structure DashboardRequest where
  /-- The path of the template. -/
  template : Text
  /-- What the title starts with. -/
  name : Text
  endpoint : Text
  build : Build
  auditLink : Bool := false
  deriving DecidableEq, Repr

namespace DashboardRequest

/-- The title of the dashboard. -/
def title (r : DashboardRequest) (flavor : Flavor) : Text :=
  r.name ++ (" - " : Text) ++ flavor.titleEnd

/-- The report on a template of which nothing can be done. -/
def templateReport (r : DashboardRequest) (action title : Text) : Report :=
  { kind := .configuration
    message := ("Could not " : Text) ++ action ++
      (" the dashboard template for the dashboard " : Text) ++ title
    details := [("dashboard", .str title), ("template", .str r.template)] }

end DashboardRequest

/-- The report on a dashboard that cannot be written as text. -/
def serializationReport (title : Text) : Report :=
  { kind := .serialization
    message := "Could not serialize the grafana dashboard"
    details := [("dashboard", .str title)] }

/-- The title of the audit link. -/
def auditLinkTitle : Text := "Audit UI"

/-- Where the audit link leads, to be filled in later. -/
def auditLinkUrl : Text := "$\x7b\x7burlPlaceholder\x7d\x7d"

/-- What all dashboards of a synthesizer have in common. -/
structure Synthesizer where
  identity : IdentitySource
  metric : Text
  indent : Int
  registry : Registry := Registry.standard

namespace Synthesizer

/-- A synthesizer under the settings, with nothing to warn of yet; a metric that is not empty and an
indentation take precedence over the settings. -/
def make (identity : IdentitySource) (metric : Option Text := none) (indent : Option Int := none) :
    Run Synthesizer := do
  let settings ← Run.settings
  modify fun s => { s with warnings := [] }
  pure
    { identity
      metric := match metric with
        | none | some [] => settings.metricName
        | some metric => metric
      indent := indent.getD settings.indent }

/-- The document that a text is read as. -/
def parseTemplate (r : DashboardRequest) (title text : Text) : Run Document :=
  match Document.parse text with
  | .ok document => pure document
  | .error (.refused why) => do
    Run.log (.templateUnparseable title r.template why.message)
    Run.report (r.templateReport "parse" title)
  | .error (.tooManyDigits digits) => Run.breakWith (.tooManyDigits (some digits))
  | .error .tooDeep => Run.breakWith .tooDeep
  | .error .infiniteGrid => Run.breakWith .infiniteGrid

/-- The text of the template. -/
def readTemplate (r : DashboardRequest) (title : Text) : Run Text := do
  let s ← get
  match loadTemplate s.files s.home r.template with
  | .ok text => pure text
  | .error .undecodable => Run.breakWith .undecodable
  | .error fault =>
    Run.log (.templateUnreadable title r.template fault.message)
    Run.report (r.templateReport "read" title)

/-- The document with its title and, if asked for, the audit link; there is none if a link is not an
object. -/
def titled? (r : DashboardRequest) (title : Text) (document : Document) : Option Document :=
  let document := document.setTitle title
  if r.auditLink then document.addLink? auditLinkTitle auditLinkUrl else some document

/-- The dashboard before anything is added for its decisions. -/
def start (s : Synthesizer) (r : DashboardRequest) (title : Text) : Run Document := do
  let template ← readTemplate r title
  let identity ← s.identity.draw
  let value := markerValue r.endpoint r.build.artifactId r.build.version identity
  let document ← parseTemplate r title (customize value template)
  match titled? r title document with
  | some document => pure document
  | none => Run.breakWith .linkNotAnObject

/-- Adds the panels of decisions. -/
def addDecisions (s : Synthesizer) (r : DashboardRequest) (title : Text) (decisions : List Decision)
    (document : Document) : Run Document := do
  let (treatments, defect) := treatAll s.registry s.metric r.endpoint r.build decisions
  treatments.forM fun treatment => do
    Run.log treatment.event
    treatment.warning?.forM Run.warn
  match defect with
  | some defect => Run.report defect.report
  | none =>
    let contents := treatments.filterMap Treatment.content?
    let skipped := (treatments.filterMap Treatment.warning?).length
    Run.log (.decisionPanelsAdded title contents.length skipped)
    pure (contents.foldl Document.addPanel document)

/-- The dashboard as text. -/
def serialize (s : Synthesizer) (title : Text) (document : Document) : Run Text :=
  match document.serialize (some s.indent) with
  | .ok text => do
    Run.log (.dashboardSynthesized title document.panels.length)
    pure text
  | .error .tooManyDigits => do
    Run.log (.serializationFailed title Document.unprintableMessage)
    Run.report (serializationReport title)
  | .error .tooDeep => Run.breakWith .tooDeep
  | .error .indentTooLarge => Run.breakWith .indentTooLarge

/-- Makes a dashboard. -/
def dashboard (s : Synthesizer) (flavor : Flavor) (r : DashboardRequest) : Run Text := do
  let title := r.title flavor
  let document ← s.start r title
  let document ←
    match flavor with
    | .decisionModel decisions => s.addDecisions r title decisions document
    | _ => pure document
  s.serialize title document

end Synthesizer

end DashboardSynthesis
