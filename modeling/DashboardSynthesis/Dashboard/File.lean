import DashboardSynthesis.Synthesizer

/-!
# Dashboards as files

A dashboard of an endpoint goes into a file whose name tells its flavor and its endpoint, in the
directory `dashboards` below the directory for output.  The name of the endpoint is put into the path
as it is, so a separator in it makes another directory.
-/

namespace DashboardSynthesis

/-- A file that has been made: the path below the directory for output, and contents. -/
structure DashboardFile where
  path : Text
  contents : ByteArray

namespace DashboardFile

/-- The file with a text at a path. -/
def ofText (path text : Text) : Run DashboardFile :=
  match text.encode? with
  | some contents => pure ⟨path, contents⟩
  | none => Run.breakWith .unencodable

/-- The path of the operational dashboard of an endpoint. -/
def operationalPath (endpoint : Text) : Text :=
  ("dashboards/operational-dashboard-" : Text) ++ endpoint ++ (".json" : Text)

/-- The path of the domain dashboard of an endpoint. -/
def domainPath (endpoint : Text) : Text :=
  ("dashboards/domain-dashboard-" : Text) ++ endpoint ++ (".json" : Text)

/-- The file of a dashboard of a flavor. -/
def ofDashboard (flavor : Flavor) (endpoint text : Text) : Run DashboardFile :=
  match flavor with
  | .operational => ofText (operationalPath endpoint) text
  | .decisionModel _ | .ruleUnit => ofText (domainPath endpoint) text

/-- Writes a file below a directory. -/
def write (directory : Path) (file : DashboardFile) : Run Path := do
  let path := directory.join (.ofText file.path)
  Run.makeDirectories path.parent
  Run.writeFile path file.contents
  Run.log (.fileWritten path.toText)
  pure path

/-- Writes files below a directory, in order. -/
def writeAll (directory : Path) (files : List DashboardFile) : Run (List Path) :=
  files.mapM (write directory)

end DashboardFile

/-- What both dashboards of an endpoint are made for. -/
structure EndpointRequest where
  endpoint : Text
  build : Build
  /-- The decisions of a decision model; there are none for a rule unit. -/
  decisions : Option (List Decision) := none
  /-- Is the audit link asked for?  If this is left open the settings decide. -/
  auditLink : Option Bool := none

/-- The flavor of the domain dashboard. -/
def EndpointRequest.domainFlavor (r : EndpointRequest) : Flavor :=
  match r.decisions with
  | some decisions => .decisionModel decisions
  | none => .ruleUnit

/-- Makes the operational and the domain dashboard of an endpoint.  The titles carry the build, the
names of the files do not. -/
def endpointDashboards (synthesizer : Run Synthesizer) (r : EndpointRequest) :
    Run (List DashboardFile) := do
  let settings ← Run.settings
  let auditLink := r.auditLink.getD settings.auditLink
  let s ← synthesizer
  let name := dashboardName (some r.build) r.endpoint
  let request (template : Text) : DashboardRequest :=
    { template, name, endpoint := r.endpoint, build := r.build, auditLink }
  let operational ← s.dashboard .operational (request settings.operationalTemplate)
  let domain ← s.dashboard r.domainFlavor (request settings.domainTemplate)
  return [← DashboardFile.ofDashboard .operational r.endpoint operational,
    ← DashboardFile.ofDashboard r.domainFlavor r.endpoint domain]

end DashboardSynthesis
