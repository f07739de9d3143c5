import DashboardSynthesis.Session

/-!
# Files of decisions

A file of decisions is in YAML: a mapping with a list under `decisions`, in which each entry is a
mapping with a `name`, and perhaps an `id` and a `type`.  What stands there may be of any kind, and its
text is taken, as far as values may be nested in it; a name or id that counts as absent is none.
`Decision.ofValues` reads the list without effects, `Decision.load` reads a file.
-/

namespace DashboardSynthesis

open Yaml (Datum Value)

/-- Why no decisions are read from a value. -/
inductive DecisionDefect where
  /-- There is no list of decisions. -/
  | noList
  /-- An entry of the list has no name. -/
  | noName (index : Nat)
  /-- A value in an entry has no text. -/
  | unprintable (index : Nat) (why : Datum.TextFault)
  deriving DecidableEq, Repr

namespace Decision

/-- The value under a key of an entry, where a value that counts as absent is none. -/
def present? (entry : Value) (key : Text) : Option Value := (entry.get? key).filter Value.isTruthy

/-- The type that an entry declares: any value but nothing. -/
def declared? (entry : Value) : Option Value := (entry.get? "type").filter fun v => !v.isNull

variable (levels : Nat)

/-- The decision of an entry at an index of the list. -/
def ofValue (index : Nat) (entry : Value) : Except DecisionDefect Decision :=
  match present? entry "name" with
  | none => .error (.noName index)
  | some name =>
    let decision : Except Datum.TextFault Decision := do
      let name ← name.text? levels
      let identifier ← ((present? entry "id").map (Value.text? levels)).getD (.ok name)
      let valueType ← (declared? entry).mapM (Value.text? levels)
      pure { name, identifier, valueType }
    decision.mapError (.unprintable index)

/-- The decisions of the entries from an index on. -/
def ofValues : (index : Nat) → List Value → Except DecisionDefect (List Decision)
  | _, [] => .ok []
  | index, entry :: rest => do
    let decision ← ofValue levels index entry
    return decision :: (← ofValues (index + 1) rest)

/-- The list of decisions in a file's value; without the key it is empty. -/
def entries? (v : Value) : Option (List Value) :=
  match v.datum with
  | .map .. =>
    match v.get? "decisions" with
    | none => some []
    | some decisions => decisions.items?
  | _ => none

/-- The decisions in a file's value. -/
def ofFileValue (v : Value) : Except DecisionDefect (List Decision) :=
  match entries? v with
  | none => .error .noList
  | some items => ofValues levels 0 items

/-- A report on a file of decisions. -/
def fileReport (path message : Text) (index : Option Nat := none) : Report :=
  { kind := .configuration
    message
    details :=
      (("path" : Text), .str path) :: (index.toList.map fun (n : Nat) => (("index" : Text), .int n)) }

/-- The failure for a defect of a file at a path. -/
def failureOf (path : Text) : DecisionDefect → Failure
  | .noList => .reported (fileReport path "Decision file must contain a 'decisions' list")
  | .noName index =>
    .reported (fileReport path
      (("Decision #" : Text) ++ Text.ofNat index ++ (" has no 'name'" : Text)) (some index))
  | .unprintable _ .tooManyDigits => .broken (.tooManyDigits none)
  | .unprintable _ .tooDeep => .broken .tooDeep

/-- The failure for a file at a path that has no value. -/
def failureOfYaml (path : Text) : Yaml.Refusal → Failure
  | .malformed message =>
    .reported (fileReport path (("Invalid YAML in decision file: " : Text) ++ message))
  | .broken cause => .broken cause

/-- Reads the decisions in the file at a path.  A file without a value holds no decisions. -/
def load (name : Text) : Run (List Decision) := do
  let path := Path.ofText name
  match ← Run.probe path with
  | none =>
    Run.report (fileReport path.toText (("Decision file not found: " : Text) ++ path.toText))
  | some _ =>
    let contents ← Run.readFile path
    let platform := (← get).platform
    match platform.yaml path.toText contents with
    | .error refusal => throw (failureOfYaml path.toText refusal)
    | .ok v =>
      if v.isNull then pure []
      else
        match ofFileValue platform.levels v with
        | .error defect => throw (failureOf path.toText defect)
        | .ok decisions =>
          Run.log (.decisionsLoaded path.toText decisions.length)
          pure decisions

end Decision

end DashboardSynthesis
