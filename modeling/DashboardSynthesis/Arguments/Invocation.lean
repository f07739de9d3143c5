import DashboardSynthesis.Arguments.Reading
import DashboardSynthesis.Command.Basic

/-!
# Invocations

An invocation of the program is a command with its options, and says whether logging is verbose.  Each
command has a grammar of its own; a word that neither the program nor the command knows is refused in
the name of the program.
-/

namespace DashboardSynthesis

/-- The name of the program. -/
def programName : Text := "decisiondash"

/-- The version of the program. -/
def programVersion : Text := "0.1.0"

/-! ## Grammars -/

/-- The option that asks for help. -/
def helpOption : OptionRule := ⟨["-h", "--help"], .help, false⟩

/-- The options for a build. -/
def buildOptions : List OptionRule :=
  [⟨["--artifact-id", "-a"], .value, false⟩, ⟨["--version"], .value, false⟩]

/-- The options for one dashboard. -/
def dashboardOptions : List OptionRule :=
  helpOption :: buildOptions ++
    [⟨["--template", "-t"], .value, false⟩, ⟨["--name"], .value, false⟩,
     ⟨["--audit-link"], .flag, false⟩, ⟨["--output", "-o"], .value, false⟩,
     ⟨["--dry-run"], .flag, false⟩]

/-- The option for the file of the decisions. -/
def decisionsOption (required : Bool) : OptionRule := ⟨["--decisions", "-d"], .value, required⟩

/-- The grammar in front of the command. -/
def programGrammar : Grammar :=
  { program := programName
    options := [helpOption, ⟨["--version-info"], .version, false⟩, ⟨["--verbose"], .flag, false⟩]
    operand := .command }

/-! ## Commands -/

/-- The words that name commands. -/
inductive Verb where
  | operational
  | decision
  | rules
  | endpoint
  | name
  | listTypes
  deriving DecidableEq, Repr

namespace Verb

/-- All verbs, in the order in which messages list them. -/
def all : List Verb := [operational, decision, rules, endpoint, name, listTypes]

/-- The word for a verb. -/
def text : Verb → Text
  | operational => "operational"
  | decision => "decision"
  | rules => "rules"
  | endpoint => "endpoint"
  | name => "name"
  | listTypes => "list-types"

/-- The verb of a word. -/
def ofText? (word : Text) : Option Verb := all.find? fun verb => verb.text = word

/-- The options of a verb. -/
def options : Verb → List OptionRule
  | operational | rules => dashboardOptions
  | decision => dashboardOptions ++ [decisionsOption true]
  | endpoint =>
    helpOption :: buildOptions ++
      [decisionsOption false, ⟨["--output-dir"], .value, false⟩, ⟨["--audit-link"], .flag, false⟩]
  | name => helpOption :: buildOptions
  | listTypes => [helpOption]

/-- What a verb expects besides options. -/
def operand : Verb → Operand
  | operational | decision | rules | endpoint => .value "endpoint"
  | name => .value "handler"
  | listTypes => .none

/-- The grammar behind a verb. -/
def grammar (verb : Verb) : Grammar :=
  { program := programName ++ (.scalar ' ' :: verb.text)
    options := verb.options
    operand := verb.operand }

end Verb

namespace Reading

/-- The operand; it is there if the reading is that of a grammar with a value. -/
def subject (r : Reading) : Text := r.operand.getD []

/-- The build that is given. -/
def build (r : Reading) : BuildOptions :=
  { artifactId := r.value? "--artifact-id", version := r.value? "--version" }

/-- What is given for one dashboard. -/
def dashboard (r : Reading) : DashboardOptions :=
  { endpoint := r.subject
    build := r.build
    template := r.value? "--template"
    name := r.value? "--name"
    auditLink := r.has "--audit-link"
    output := r.value? "--output"
    dryRun := r.has "--dry-run" }

/-- What is given for all dashboards of an endpoint. -/
def endpoint (r : Reading) : EndpointOptions :=
  { endpoint := r.subject
    build := r.build
    decisions := r.value? "--decisions"
    outputDirectory := r.value? "--output-dir"
    auditLink := r.has "--audit-link" }

end Reading

/-- The command of a verb with what is given for it. -/
def Verb.command (r : Reading) : Verb → Command
  | operational => .operational r.dashboard
  | decision => .decision ((r.value? "--decisions").getD []) r.dashboard
  | rules => .rules r.dashboard
  | endpoint => .endpoint r.endpoint
  | name => .name r.subject r.build
  | listTypes => .listTypes

/-- What the program is called with: a command, if there is one, and whether logging is verbose. -/
structure Invocation where
  verbose : Bool
  command : Option Command
  deriving DecidableEq, Repr

namespace Invocation

/-- Refuses words that are unknown. -/
def refuseUnknown : List Text → Except Stop Unit
  | [] => .ok ()
  | words => .error (.misuse programName (.unrecognized words))

/-- Reads a command line. -/
def read (arguments : List Text) : Except Stop Invocation := do
  let outer ← programGrammar.read arguments
  let verbose := outer.has "--verbose"
  match outer.operand with
  | none =>
    refuseUnknown outer.unknown
    return ⟨verbose, none⟩
  | some word =>
    match Verb.ofText? word with
    | none => .error (.misuse programName (.noSuchCommand word (Verb.all.map Verb.text)))
    | some verb =>
      let inner ← verb.grammar.read outer.tail
      refuseUnknown (outer.unknown ++ inner.unknown)
      return ⟨verbose, some (verb.command inner)⟩

end Invocation

end DashboardSynthesis
