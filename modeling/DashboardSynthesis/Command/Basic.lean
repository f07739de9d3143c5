import DashboardSynthesis.Command.Guard
import DashboardSynthesis.Dashboard.File
import DashboardSynthesis.Decision.File

/-!
# Commands

The commands make the dashboards of an endpoint: one of them, or all at once; others tell the name of
a dashboard and the types of decisions that get panels.  A command that makes dashboards needs a build,
and checks that before anything else.  It ends with exit code 0, or with 1 if decisions were skipped.
-/

namespace DashboardSynthesis

/-- A build as it is given to a command. -/
structure BuildOptions where
  artifactId : Option Text := none
  version : Option Text := none
  deriving DecidableEq, Repr

/-- What a command that makes one dashboard is given. -/
structure DashboardOptions where
  endpoint : Text
  build : BuildOptions := {}
  template : Option Text := none
  /-- What the title starts with. -/
  name : Option Text := none
  auditLink : Bool := false
  /-- The file to be written. -/
  output : Option Text := none
  /-- Is the dashboard printed and not written? -/
  dryRun : Bool := false
  deriving DecidableEq, Repr

/-- What the command that makes all dashboards of an endpoint is given. -/
structure EndpointOptions where
  endpoint : Text
  build : BuildOptions := {}
  /-- The file of the decisions of a decision model. -/
  decisions : Option Text := none
  outputDirectory : Option Text := none
  auditLink : Bool := false
  deriving DecidableEq, Repr

/-- The commands. -/
inductive Command where
  | operational (options : DashboardOptions)
  /-- Makes the domain dashboard of a decision model, whose decisions are in a file. -/
  | decision (decisions : Text) (options : DashboardOptions)
  /-- Makes the domain dashboard of a rule unit. -/
  | rules (options : DashboardOptions)
  | endpoint (options : EndpointOptions)
  /-- Tells the name of the dashboard of a handler. -/
  | name (handler : Text) (build : BuildOptions)
  | listTypes
  deriving DecidableEq, Repr

/-- A text that is given and not empty. -/
def given? (t : Option Text) : Option Text := t.filter fun t => !t.isEmpty

/-- The value of a field that may be missing. -/
def optionalField (t : Option Text) : Json :=
  match t with
  | some t => .str t
  | none => .null

namespace BuildOptions

/-- The report on a build of which one half is missing. -/
def halfReport (b : BuildOptions) : Report :=
  { kind := .validation
    message := "--artifact-id and --version must be given together"
    details :=
      [("artifact_id", optionalField b.artifactId), ("version", optionalField b.version)] }

/-- The report on a missing build. -/
def missingReport : Report :=
  { kind := .validation
    message := "--artifact-id and --version are required to generate dashboards" }

/-- The build that is given, if one is given; the report if only a half of it is. -/
def build? (b : BuildOptions) : Except Report (Option Build) :=
  match given? b.artifactId, given? b.version with
  | some artifactId, some version => .ok (some ⟨artifactId, version⟩)
  | none, none => .ok none
  | _, _ => .error b.halfReport

/-- The build that has to be given. -/
def build (b : BuildOptions) : Except Report Build :=
  match b.build? with
  | .ok (some build) => .ok build
  | .ok none => .error missingReport
  | .error r => .error r

end BuildOptions

namespace Run

/-- Continues with what there is, or reports why there is nothing. -/
def orReport {α : Type} : Except Report α → Run α
  | .ok a => pure a
  | .error r => report r

end Run

namespace Command

/-- Puts a dashboard where it is to go: it is printed as it is, or written to the file that is asked
for, or below the directory for output. -/
def emit (file : DashboardFile) (text : Text) (options : DashboardOptions) : Run Unit := do
  if options.dryRun then Run.print (text ++ ("\n" : Text))
  else
    let path ← match given? options.output with
      | some output => do
        let path := Path.ofText output
        Run.makeDirectories path.parent
        Run.writeFile path file.contents
        pure path
      | none => do
        let settings ← Run.settings
        file.write (.ofText settings.outputDirectory)
    Run.saySuccess (("Dashboard written to " : Text) ++ path.toText)

/-- Prints warnings; the outcome is the exit code. -/
def sayWarnings (warnings : List Text) : Run Int := do
  warnings.forM Run.sayWarning
  pure (if warnings.isEmpty then 0 else 1)

/-- The template of the settings for a flavor. -/
def standardTemplate (flavor : Flavor) (settings : Settings) : Text :=
  match flavor with
  | .operational => settings.operationalTemplate
  | .decisionModel _ | .ruleUnit => settings.domainTemplate

/-- The template to be used: the one that is given, or else that of the settings. -/
def template (flavor : Flavor) (options : DashboardOptions) : Run Text :=
  match given? options.template with
  | some template => pure template
  | none => return standardTemplate flavor (← Run.settings)

/-- Makes one dashboard of a build. -/
def makeDashboard (identity : IdentitySource) (flavor : Flavor) (build : Build)
    (options : DashboardOptions) : Run Int := do
  let synthesizer ← Synthesizer.make identity
  let text ← synthesizer.dashboard flavor
    { template := ← template flavor options
      name := (given? options.name).getD (dashboardName (some build) options.endpoint)
      endpoint := options.endpoint
      build
      auditLink := options.auditLink }
  let file ← DashboardFile.ofDashboard flavor options.endpoint text
  emit file text options
  sayWarnings (← get).warnings

/-- The directory for output: the one that is given, or else that of the settings. -/
def outputDirectory (options : EndpointOptions) : Run Text :=
  match given? options.outputDirectory with
  | some directory => pure directory
  | none => return (← Run.settings).outputDirectory

/-- Makes all dashboards of an endpoint. -/
def makeEndpointDashboards (identity : IdentitySource) (options : EndpointOptions) : Run Int := do
  let build ← Run.orReport options.build.build
  let decisions ← (given? options.decisions).mapM Decision.load
  Run.sayTitle (("Dashboards for " : Text) ++ options.endpoint)
  Run.sayValue "Artifact" build.artifactId
  Run.sayValue "Version" build.version
  Run.sayValue "Flavor" (if decisions.isSome then ("decision model" : Text) else "rule unit")
  let synthesizer ← Synthesizer.make identity
  let files ← endpointDashboards (pure synthesizer)
    { endpoint := options.endpoint
      build
      decisions
      auditLink := if options.auditLink then some true else none }
  let paths ← DashboardFile.writeAll (.ofText (← outputDirectory options)) files
  paths.forM fun path => Run.saySuccess (("Wrote " : Text) ++ path.toText)
  sayWarnings (← get).warnings

/-- The table of the types that get panels. -/
def typeTable (registry : Registry) : Layout.Table :=
  { title := "Supported decision types"
    columns := ["Type", "Query function", "Y-axis"]
    rows := registry.map fun (type, entry) =>
      [type, (entry.function.map fun f => f.kind.name).getD [], entry.yAxis.getD []] }

/-- What a command does, before its failures are dealt with. -/
def body (identity : IdentitySource) : Command → Run Int
  | operational options => do
    let build ← Run.orReport options.build.build
    makeDashboard identity .operational build options
  | decision decisions options => do
    let build ← Run.orReport options.build.build
    let decisions ← Decision.load decisions
    makeDashboard identity (.decisionModel decisions) build options
  | rules options => do
    let build ← Run.orReport options.build.build
    makeDashboard identity .ruleUnit build options
  | endpoint options => makeEndpointDashboards identity options
  | name handler build => do
    let build ← Run.orReport build.build?
    Run.print (dashboardName build handler ++ ("\n" : Text))
    pure 0
  | listTypes => do
    Run.sayTable (typeTable Registry.standard)
    pure 0

/-- Runs a command; the outcome is the exit code.  The failures of a command are dealt with, but the
one that only shows a table has no guard. -/
def run (identity : IdentitySource) (command : Command) : Run Int :=
  match command with
  | listTypes => listTypes.body identity
  | command => ({} : Guard).run (command.body identity)

end Command

end DashboardSynthesis
