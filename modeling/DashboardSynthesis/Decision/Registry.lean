import DashboardSynthesis.PromQL.Query

/-!
# The registry of decision types

For each supported type the registry holds the query function and the axis label of its panels.  An
entry that lacks one of them, and a look-up of a type that is not there, are defects of the registry.
-/

namespace DashboardSynthesis

open PromQL (QueryFunction)

/-- What a registry knows about a type. -/
structure TypeEntry where
  function : Option QueryFunction
  yAxis : Option Text
  deriving DecidableEq, Repr

/-- The supported types, in order, each once. -/
abbrev Registry := List (Text × TypeEntry)

/-- A contradiction in the registry. -/
inductive RegistryDefect where
  | unsupported (type : Text)
  | noFunction (type : Text)
  | noAxis (type : Text)
  | query (why : PromQL.QueryDefect)
  deriving DecidableEq, Repr

/-- The report on a defect of the registry. -/
def RegistryDefect.report : RegistryDefect → Report
  | unsupported type =>
    { kind := .registryInconsistency
      message := ("Decision type '" : Text) ++ type ++ ("' is not supported" : Text)
      details := [("type", .str type)] }
  | noFunction type =>
    { kind := .registryInconsistency
      message := "Mismatch between supported decision types and defined query functions"
      details := [("type", .str type)] }
  | noAxis type =>
    { kind := .registryInconsistency
      message := "Mismatch between supported decision types and Y-axis labels"
      details := [("type", .str type)] }
  | query why => why.report

namespace Registry

/-- The registry with an entry for a type: in the old place if there is one, else at the end. -/
def set : Registry → Text → TypeEntry → Registry
  | [], type, entry => [(type, entry)]
  | (t, e) :: rest, type, entry =>
    if t = type then (type, entry) :: rest else (t, e) :: set rest type entry

/-- The registry of a list of entries, in which a later one replaces an earlier one. -/
def ofList (entries : List (Text × TypeEntry)) : Registry :=
  entries.foldl (fun registry (type, entry) => registry.set type entry) []

/-- The entry for a type. -/
def find? : Registry → Text → Option TypeEntry
  | [], _ => none
  | (t, e) :: rest, type => if t = type then some e else find? rest type

/-- Does a type get panels? -/
def supports (r : Registry) (type : Text) : Bool := (r.find? type).isSome

/-- The supported types in order. -/
def types (r : Registry) : List Text := r.map (·.1)

/-- The query function of a type. -/
def functionFor (r : Registry) (type : Text) : Except RegistryDefect QueryFunction :=
  match r.find? type with
  | none => .error (.unsupported type)
  | some entry =>
    match entry.function with
    | none => .error (.noFunction type)
    | some function => .ok function

/-- The axis label of a type. -/
def yAxisFor (r : Registry) (type : Text) : Except RegistryDefect Text :=
  match r.find? type with
  | none => .error (.unsupported type)
  | some entry =>
    match entry.yAxis with
    | none => .error (.noAxis type)
    | some label => .ok label

/-- The number nearest to 0.95. -/
def ninetyFifth : Binary64 := .finite false 8556839292003942 (-53)

/-- The function for results that are counted: one rate for each observed value. -/
def evaluationRate : QueryFunction := { kind := .counterRate, groupBy := some "identifier" }

/-- The types that are supported, with their panels. -/
def standard : Registry :=
  [("number",
      ⟨some { kind := .histogramQuantile, quantile := some ninetyFifth }, some "value"⟩),
   ("boolean", ⟨some evaluationRate, some "evaluations/s"⟩),
   ("string", ⟨some evaluationRate, some "evaluations/s"⟩),
   ("days and time duration", ⟨some { kind := .gaugeValue }, some "duration (ms)"⟩),
   ("years and months duration", ⟨some { kind := .gaugeValue }, some "duration (months)"⟩)]

end Registry

end DashboardSynthesis
