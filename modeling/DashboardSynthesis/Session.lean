import DashboardSynthesis.Console.Basic
import DashboardSynthesis.Log
import DashboardSynthesis.Settings.Load
import DashboardSynthesis.Yaml.File

/-!
# Sessions

A session is all that a command can read or change: the files and the directory from which relative
paths are followed, the environment, the settings once they have been read, how many identities have
been drawn, the warnings of the synthesizer in use, and what has been logged and printed.  A `Run` is
a command over a session; if it fails, what it has done up to there stays done.

What a command needs from outside, and what is not for it to decide, is the platform of a session: the
consoles, the encoding of standard output, the log, the library that reads YAML, and how deep values may
be nested that are made into text.  No command changes it.  The platform that stands here if none is
given runs: its consoles have 80 columns, its output is in UTF-8, and its log takes everything.
-/

namespace DashboardSynthesis

/-- What a command finds around it. -/
structure Platform where
  /-- What is printed to standard output as messages. -/
  console : Console := .markup 80
  /-- What is printed to standard error as messages. -/
  errorConsole : Console := .markup 80
  /-- Is there a way to write a code point to standard output? -/
  takes : CodePoint → Bool := CodePoint.isScalar
  /-- What goes wrong in writing the details of a report to the log, if anything does. -/
  logFault : Json.Members → Option Breakdown := fun _ => none
  /-- The value of a file, given its path and its contents. -/
  yaml : (path : Text) → (contents : ByteArray) → Except Yaml.Refusal Yaml.Value := Yaml.readFile
  /-- How many values may stand inside each other in a value that is made into text. -/
  levels : Nat := 900

/-- All that a command can read or change. -/
structure Session where
  platform : Platform := {}
  files : FileTree
  home : Location
  environment : List (Text × Text) := []
  /-- The settings, if they have been read. -/
  settings? : Option Settings := none
  /-- Log events of a lower rank are dropped. -/
  threshold : Nat := 0
  idsDrawn : Nat := 0
  uidsDrawn : Nat := 0
  /-- The warnings of the synthesizer in use. -/
  warnings : List Text := []
  log : List LogEvent := []
  stdout : Text := []
  stderr : Text := []
  /-- Has the place of a failure been shown? -/
  traceShown : Bool := false

/-- A command over a session. -/
abbrev Run := ExceptT Failure (StateM Session)

namespace Run

/-- Fails without a report. -/
def breakWith {α : Type} (cause : Breakdown) : Run α := throw (.broken cause)

/-- Fails with a report. -/
def report {α : Type} (r : Report) : Run α := throw (.reported r)

/-- Logs an event, unless the threshold is above it. -/
def log (event : LogEvent) : Run Unit :=
  modify fun s => if event.level.rank < s.threshold then s else { s with log := s.log ++ [event] }

/-- Adds a warning to those of the synthesizer in use. -/
def warn (message : Text) : Run Unit :=
  modify fun s => { s with warnings := s.warnings ++ [message] }

/-- Prints to standard output.  A text of which a part cannot be written is not written at all. -/
def print (t : Text) : Run Unit := do
  let s ← get
  if t.all s.platform.takes then set { s with stdout := s.stdout ++ t } else breakWith .unencodable

/-- Prints to standard error, where something is found to be written for every code point. -/
def printError (t : Text) : Run Unit := modify fun s => { s with stderr := s.stderr ++ t }

/-! ## Files -/

/-- The breakdown for a fault at a path. -/
def fileBreakdown (path : Path) (fault : FileFault) : Breakdown := .file fault path.toText

/-- What is at a path, if that can be found out. -/
def probe (path : Path) : Run (Option Entry) := do
  let s ← get
  match s.files.probe s.home path with
  | .ok entry => pure entry
  | .error fault => breakWith (fileBreakdown path fault)

/-- The contents of the file at a path. -/
def readFile (path : Path) : Run ByteArray := do
  let s ← get
  match s.files.readFile s.home path with
  | .ok contents => pure contents
  | .error fault => breakWith (fileBreakdown path fault)

/-- The text of the file at a path. -/
def readText (path : Path) : Run Text := do
  match Text.ofFile? (← readFile path) with
  | some text => pure text
  | none => breakWith .undecodable

/-- Puts contents into the file at a path. -/
def writeFile (path : Path) (contents : ByteArray) : Run Unit := do
  let s ← get
  match s.files.writeFile s.home path contents with
  | .ok files => set { s with files }
  | .error fault => breakWith (fileBreakdown path fault)

/-- Makes the directory at a path and those above it, where they are missing. -/
def makeDirectories (path : Path) : Run Unit := do
  let s ← get
  let (outcome, files) := s.files.makeDirectories s.home path
  set { s with files }
  match outcome with
  | .ok () => pure ()
  | .error fault => breakWith (fileBreakdown path fault)

/-! ## Settings -/

/-- The file of variables in the current directory. -/
def variableFile : Path := .ofText ".env"

/-- The variables in the file of variables; there are none if there is no such file. -/
def fileVariables : Run (List (Text × Option Text)) := do
  match ← probe variableFile with
  | some (.file _) => return VariableFile.read (← readText variableFile)
  | _ => pure []

/-- The settings.  Once they have been read they stay as they are. -/
def settings : Run Settings := do
  match (← get).settings? with
  | some settings => pure settings
  | none =>
    let file ← fileVariables
    match Settings.load (← get).environment file with
    | .error fields => breakWith (.settings fields)
    | .ok settings =>
      modify fun s => { s with settings? := some settings }
      pure settings

end Run

end DashboardSynthesis
