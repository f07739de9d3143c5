import DashboardSynthesis.Dashboard.Panel
import DashboardSynthesis.Decision.Basic
import DashboardSynthesis.Decision.Registry
import DashboardSynthesis.Log

/-!
# What becomes of a decision

A decision whose type is declared and supported gets a panel; any other is skipped, and a warning says
so.  `treat` decides which, and finds the defects of the registry on the way.  `treatAll` goes through
decisions in order and stops at the first defect; what it has decided up to there is kept, since the
warnings of those decisions are given all the same.
-/

namespace DashboardSynthesis

/-- What becomes of a decision. -/
inductive Treatment where
  /-- It is skipped, since it declares no type. -/
  | typeMissing (decision : Decision)
  /-- It is skipped, since its type gets no panels. -/
  | typeUnsupported (decision : Decision) (type : Text)
  /-- It gets a panel. -/
  | panel (decision : Decision) (type : Text) (content : PanelContent)
  deriving DecidableEq, Repr

namespace Treatment

/-- The warning about a decision that is skipped. -/
def warning? : Treatment → Option Text
  | typeMissing d =>
    some (("Type of the decision \"" : Text) ++ d.name ++ ("\" with id \"" : Text) ++ d.identifier ++
      ("\" is not declared." : Text))
  | typeUnsupported d type =>
    some (("Type \"" : Text) ++ type ++ ("\" of the decision \"" : Text) ++ d.name ++
      ("\" with id \"" : Text) ++ d.identifier ++ ("\" is not supported." : Text))
  | panel .. => none

/-- The panel that a decision gets. -/
def content? : Treatment → Option PanelContent
  | panel _ _ content => some content
  | _ => none

/-- What is logged about a decision. -/
def event : Treatment → LogEvent
  | typeMissing d => .decisionTypeMissing d
  | typeUnsupported d type => .decisionTypeUnsupported d type
  | panel d type _ => .decisionPanelAdded d type

end Treatment

/-- The labels by which the panel of a decision selects its results, in order. -/
def decisionMatchers (endpoint : Text) (build : Build) (d : Decision) : List PromQL.Matcher :=
  [⟨"endpoint", PromQL.quoted endpoint⟩, ⟨"decision", PromQL.quoted d.name⟩,
   ⟨"artifactId", PromQL.quoted build.artifactId⟩, ⟨"version", PromQL.quoted build.version⟩]

/-- The panel of a decision of a supported type. -/
def decisionPanel (registry : Registry) (metric endpoint : Text) (build : Build) (d : Decision)
    (type : Text) : Except RegistryDefect PanelContent := do
  let function ← registry.functionFor type
  let query ← (function.render metric (decisionMatchers endpoint build d)).mapError .query
  let yAxis ← registry.yAxisFor type
  pure { kind := .timeseries, title := ("Decision " : Text) ++ d.name, query, axisLabel := some yAxis }

/-- What becomes of a decision. -/
def treat (registry : Registry) (metric endpoint : Text) (build : Build) (d : Decision) :
    Except RegistryDefect Treatment :=
  match d.localType? with
  | none => .ok (.typeMissing d)
  | some type =>
    if registry.supports type then
      (decisionPanel registry metric endpoint build d type).map (.panel d type)
    else .ok (.typeUnsupported d type)

/-- What becomes of the decisions before the first one where the registry is defective, and that
defect. -/
def treatAll (registry : Registry) (metric endpoint : Text) (build : Build) :
    List Decision → List Treatment × Option RegistryDefect
  | [] => ([], none)
  | d :: rest =>
    match treat registry metric endpoint build d with
    | .error defect => ([], some defect)
    | .ok treatment =>
      let (treatments, defect) := treatAll registry metric endpoint build rest
      (treatment :: treatments, defect)

end DashboardSynthesis
