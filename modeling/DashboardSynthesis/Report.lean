import DashboardSynthesis.Json.Printer
import DashboardSynthesis.Text.Literal

/-!
# Reports

A failure that the program foresees is reported with a kind, a message and details.  The kind fixes
the exit code of the command that fails, and whether the place of the failure is shown: that is so
only for a contradiction inside the registry of decision types, which is a defect and not a wrong
input.
-/

namespace DashboardSynthesis

/-- The kinds of failures that the program foresees. -/
inductive ReportKind where
  | general
  | configuration
  | validation
  | serialization
  | registryInconsistency
  deriving DecidableEq, Repr

namespace ReportKind

/-- All kinds. -/
def all : List ReportKind := [general, configuration, validation, serialization, registryInconsistency]

/-- The name of a kind in the log. -/
def name : ReportKind → Text
  | general => "DecisionDashError"
  | configuration => "ConfigurationError"
  | validation => "ValidationError"
  | serialization => "SerializationError"
  | registryInconsistency => "RegistryInconsistencyError"

/-- The exit code of a command that fails in this way. -/
def exitCode : ReportKind → Int
  | general => 127
  | configuration => 10
  | validation => 12
  | serialization => 13
  | registryInconsistency => 127

/-- Is the place of the failure always shown? -/
def showsTrace : ReportKind → Bool
  | registryInconsistency => true
  | _ => false

end ReportKind

/-- What is said about a failure that the program foresees. -/
structure Report where
  kind : ReportKind
  message : Text
  details : Json.Members := []

/-! ## Values in messages -/

/-- How floating-point values without digits are spelled in messages. -/
def messageFloatNames : Shortest.Names := ⟨"nan", "inf", "-inf"⟩

mutual

/-- A value inside a list or an object, where texts are literals. -/
def Json.inner : Json → Text
  | .null => "None"
  | .bool true => "True"
  | .bool false => "False"
  | .int n => Text.ofInt n
  | .float x => Shortest.text messageFloatNames x
  | .str t => Text.literal t
  | .arr [] => "[]"
  | .arr (item :: items) =>
    .scalar '[' :: item.inner ++ Json.innerItems items ++ ("]" : Text)
  | .obj [] => "\x7b\x7d"
  | .obj ((key, value) :: members) =>
    .scalar '{' :: Text.literal key ++ (": " : Text) ++ value.inner ++ Json.innerMembers members ++
      ("\x7d" : Text)

/-- The items after the first one. -/
def Json.innerItems : List Json → Text
  | [] => []
  | item :: items => (", " : Text) ++ item.inner ++ Json.innerItems items

/-- The members after the first one. -/
def Json.innerMembers : List (Text × Json) → Text
  | [] => []
  | (key, value) :: members =>
    (", " : Text) ++ Text.literal key ++ (": " : Text) ++ value.inner ++ Json.innerMembers members

end

/-- A value in a message: a text stands for itself. -/
def Json.inMessage : Json → Text
  | .str t => t
  | value => value.inner

mutual

/-- How many values stand inside each other in the value, itself among them. -/
def Json.nesting : Json → Nat
  | .arr items => Json.itemsNesting items + 1
  | .obj members => Json.membersNesting members + 1
  | _ => 1

/-- How many values stand inside each other in the items. -/
def Json.itemsNesting : List Json → Nat
  | [] => 0
  | item :: items => max item.nesting (Json.itemsNesting items)

/-- How many values stand inside each other in the members. -/
def Json.membersNesting : List (Text × Json) → Nat
  | [] => 0
  | (_, value) :: members => max value.nesting (Json.membersNesting members)

end

namespace Report

/-- The message, with the details in parentheses behind it. -/
def formatted (r : Report) : Text :=
  match r.details with
  | [] => r.message
  | details =>
    r.message ++ (" (" : Text) ++
      Text.joinWith ", "
        (details.map fun (key, value) => key ++ (.scalar '=' :: value.inMessage)) ++
      (")" : Text)

end Report

end DashboardSynthesis
