import DashboardSynthesis.Decision.Basic
import DashboardSynthesis.Failure

/-!
# The log

What the program does is logged as events.  An event has a name, a level and fields; which fields it
has depends on the event.
-/

namespace DashboardSynthesis

/-- The levels of log events. -/
inductive LogLevel where
  | debug
  | info
  | warning
  | error
  deriving DecidableEq, Repr

namespace LogLevel

/-- The name of a level. -/
def name : LogLevel → Text
  | debug => "debug"
  | info => "info"
  | warning => "warning"
  | error => "error"

/-- The rank of a level among levels and thresholds. -/
def rank : LogLevel → Nat
  | debug => 10
  | info => 20
  | warning => 30
  | error => 40

/-- The names under which a threshold can be asked for, in upper case. -/
def thresholds : List (Text × Nat) :=
  [("CRITICAL", 50), ("FATAL", 50), ("ERROR", 40), ("WARN", 30), ("WARNING", 30), ("INFO", 20),
   ("DEBUG", 10), ("NOTSET", 0)]

/-- The threshold of a name. -/
def threshold? (name : Text) : Option Nat :=
  (thresholds.find? fun (known, _) => known = name).map (·.2)

end LogLevel

/-- What is logged. -/
inductive LogEvent where
  | templateUnreadable (dashboard template why : Text)
  | templateUnparseable (dashboard template why : Text)
  | decisionTypeMissing (decision : Decision)
  | decisionTypeUnsupported (decision : Decision) (type : Text)
  | decisionPanelAdded (decision : Decision) (type : Text)
  | decisionPanelsAdded (dashboard : Text) (added skipped : Nat)
  | serializationFailed (dashboard why : Text)
  | dashboardSynthesized (dashboard : Text) (panels : Nat)
  | fileWritten (path : Text)
  | decisionsLoaded (path : Text) (count : Nat)
  | commandFailed (report : Report)
  | commandInterrupted
  | commandBroke (cause : Breakdown)

namespace LogEvent

/-- The name of an event. -/
def name : LogEvent → Text
  | templateUnreadable .. => "template_unreadable"
  | templateUnparseable .. => "template_unparseable"
  | decisionTypeMissing _ => "decision_type_missing"
  | decisionTypeUnsupported .. => "decision_type_unsupported"
  | decisionPanelAdded .. => "decision_panel_added"
  | decisionPanelsAdded .. => "decision_panels_added"
  | serializationFailed .. => "dashboard_serialization_failed"
  | dashboardSynthesized .. => "dashboard_synthesized"
  | fileWritten _ => "generated_file_written"
  | decisionsLoaded .. => "decisions_loaded"
  | commandFailed _ => "command_error"
  | commandInterrupted => "command_interrupted"
  | commandBroke _ => "unexpected_error"

/-- The level of an event. -/
def level : LogEvent → LogLevel
  | decisionPanelAdded .. | decisionsLoaded .. => .debug
  | decisionPanelsAdded .. | dashboardSynthesized .. | fileWritten _ | commandInterrupted => .info
  | decisionTypeMissing _ | decisionTypeUnsupported .. => .warning
  | templateUnreadable .. | templateUnparseable .. | serializationFailed .. | commandFailed _
  | commandBroke _ => .error

/-- The exit code of a command that fails without a report. -/
def unknownExitCode : Int := 127

/-- The fields of an event. -/
def fields : LogEvent → Json.Members
  | templateUnreadable dashboard template why | templateUnparseable dashboard template why =>
    [("dashboard", .str dashboard), ("template", .str template), ("error", .str why)]
  | decisionTypeMissing decision =>
    [("decision", .str decision.name), ("decision_id", .str decision.identifier)]
  | decisionTypeUnsupported decision type =>
    [("decision", .str decision.name), ("decision_id", .str decision.identifier),
     ("type", .str type)]
  | decisionPanelAdded decision type => [("decision", .str decision.name), ("type", .str type)]
  | decisionPanelsAdded dashboard added skipped =>
    [("dashboard", .str dashboard), ("added", .int added), ("skipped", .int skipped)]
  | serializationFailed dashboard why => [("dashboard", .str dashboard), ("error", .str why)]
  | dashboardSynthesized dashboard panels =>
    [("dashboard", .str dashboard), ("panels", .int panels)]
  | fileWritten path => [("path", .str path), ("type", .str "dashboard")]
  | decisionsLoaded path count => [("path", .str path), ("count", .int count)]
  | commandFailed report =>
    [(("error_type" : Text), .str report.kind.name), (("message" : Text), .str report.message),
     (("exit_code" : Text), .int report.kind.exitCode)] ++ report.details
  | commandInterrupted => []
  | commandBroke cause =>
    [("error_type", .str cause.name), ("message", .str cause.message),
     ("exit_code", .int unknownExitCode)]

end LogEvent

namespace Report

/-- The fields that the log entry of a failed command has whatever the details are; a detail of one
of these names cannot be logged. -/
def reservedFields : List Text :=
  ["error_type", "message", "exit_code", "event", "self", "method_name"]

/-- The first detail that cannot be logged. -/
def reservedDetail? (r : Report) : Option Text :=
  r.details.keys.find? fun key => reservedFields.contains key

end Report

end DashboardSynthesis
