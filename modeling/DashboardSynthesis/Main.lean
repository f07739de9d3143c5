import DashboardSynthesis.Program

/-!
# The command line

The outer layer of the program.  It loads the files and directories that a command may look at into a
session, runs the command there, and carries out what has changed: it prints, and it makes directories
and files.  It decides nothing about dashboards.
-/

namespace DashboardSynthesis
namespace Shell

/-- A text as a string, with a replacement for each surrogate. -/
def stringOf (t : Text) : String :=
  String.ofList <| t.map fun c => c.char?.getD '\uFFFD'

/-! ## What a command may look at -/

/-- The template and the output of a dashboard of a flavor. -/
def dashboardPaths (settings : Settings) (template defaultTemplate : Text) (output : Option Text)
    (directory file : Text) : List Path :=
  let template := if template.isEmpty then defaultTemplate else template
  [.ofText template, .ofText settings.operationalTemplate, .ofText settings.domainTemplate,
    (given? output).elim ((Path.ofText directory).join (.ofText file)) .ofText]

/-- The paths that a command may look at. -/
def pathsOf (settings : Settings) : Command → List Path
  | .operational o =>
    dashboardPaths settings (o.template.getD []) settings.operationalTemplate o.output
      settings.outputDirectory (DashboardFile.operationalPath o.endpoint)
  | .decision decisions o =>
    .ofText decisions ::
      dashboardPaths settings (o.template.getD []) settings.domainTemplate o.output
        settings.outputDirectory (DashboardFile.domainPath o.endpoint)
  | .rules o =>
    dashboardPaths settings (o.template.getD []) settings.domainTemplate o.output
      settings.outputDirectory (DashboardFile.domainPath o.endpoint)
  | .endpoint o =>
    let directory := (given? o.outputDirectory).getD settings.outputDirectory
    (o.decisions.toList.map .ofText) ++
      dashboardPaths settings [] settings.operationalTemplate none directory
        (DashboardFile.operationalPath o.endpoint) ++
      dashboardPaths settings [] settings.domainTemplate none directory
        (DashboardFile.domainPath o.endpoint)
  | .name .. | .listTypes => []

/-- Loads what is at a path and above it. -/
def load (home : Location) (tree : FileTree) (path : Path) : IO FileTree := do
  let here ← IO.currentDir
  let mut tree := tree
  for n in List.range path.names.length do
    let above : Path := ⟨path.root, path.names.take (n + 1)⟩
    let place := here / stringOf above.toText
    if let .ok location := tree.resolve home above then
      if ← place.isDir then tree := tree.set location .directory
      else if ← place.pathExists then
        tree := tree.set location (.file (← IO.FS.readBinFile place))
  return tree

/-- The names under which a setting is looked for in the environment. -/
def variableNames (setting : Setting) : List String :=
  [stringOf setting.variableName, stringOf setting.variableName.toUpperAscii]

/-- The variables of the environment that are settings. -/
def environment : IO (List (Text × Text)) := do
  let mut found := []
  for setting in Setting.all do
    for name in variableNames setting do
      if let some value ← IO.getEnv name then
        found := found ++ [(Text.ofString name, Text.ofString value)]
  return found

/-- The number of columns of the consoles, if the environment says it. -/
def columns : IO Nat := do
  match (← IO.getEnv "COLUMNS").bind String.toNat? with
  | some n => pure (max n 1)
  | none => pure 80

/-- The session at the start. -/
def session (arguments : List Text) : IO Session := do
  let here ← IO.currentDir
  let home := (Path.ofText (Text.ofString here.toString)).names
  let above := (List.range home.length).map fun n => home.take (n + 1)
  let root := above.foldl (fun tree place => tree.set place .directory) FileTree.empty
  let console := Console.markup (← columns)
  let start : Session :=
    { platform := { console, errorConsole := console }
      files := ← load home root Run.variableFile, home, environment := ← environment }
  match Invocation.read arguments, (Run.settings.run start).1 with
  | .ok { command := some command, .. }, .ok settings =>
    return { start with files := ← (pathsOf settings command).foldlM (load home) start.files }
  | _, _ => return start

/-! ## Identities -/

/-- A byte in hexadecimal. -/
def hexByte (n : Nat) : Text := Text.hexPadded 2 n

/-- A random identity: an id of 31 bits and a random UUID. -/
def randomIdentity : IO Identity := do
  let id ← IO.rand 0 0x7FFFFFFF
  let bytes ← IO.getRandomBytes 16
  let hex := (List.range 16).flatMap fun i =>
    let n := (bytes.toList[i]?.getD 0).toNat
    let n := if i = 6 then n % 16 + 64 else if i = 8 then n % 64 + 128 else n
    hexByte n ++ (if [3, 5, 7, 9].contains i then ("-" : Text) else [])
  return ⟨id, hex⟩

/-- A source of random identities.  A command draws two at most. -/
def randomSource : IO IdentitySource := do
  let first ← randomIdentity
  let second ← randomIdentity
  let nth (n : Nat) := if n = 0 then first else second
  return ⟨fun n => (nth n).id, fun n => (nth n).uid⟩

/-! ## Carrying out what has changed -/

/-- Makes the directories and files that are new or have other contents. -/
def apply (before after : FileTree) : IO Unit := do
  for (location, entry) in after.entries do
    let place := "/" ++ stringOf (Text.joinWith "/" location)
    match entry, before.get? location with
    | .directory, some .directory => pure ()
    | .directory, _ => IO.FS.createDirAll place
    | .file contents, some (.file old) =>
      unless contents.data = old.data do IO.FS.writeBinFile place contents
    | .file contents, _ => IO.FS.writeBinFile place contents

/-- The line for an event in the log. -/
def logLine (verbose : Bool) (e : LogEvent) : Text :=
  if verbose then
    let fields := e.fields.map fun (key, value) =>
      (.scalar ' ' :: key) ++ (.scalar '=' :: value.inMessage)
    e.level.name ++ (.scalar ' ' :: e.name) ++ fields.flatten
  else
    Json.print .compact 0 <|
      .obj ((e.fields.set "event" (.str e.name)).set "level" (.str e.level.name))

/-- What the program can be called with. -/
def help : Text :=
  let describe (verb : Verb) : Text :=
    let operand := match verb.operand with
      | .value name => .scalar ' ' :: name
      | _ => []
    let options := verb.options.flatMap fun rule =>
      (" [" : Text) ++ rule.label ++ ("]" : Text)
    ("  " : Text) ++ verb.text ++ operand ++ options
  Layout.joinLines <|
    [("usage: " : Text) ++ programName ++
        (" [-h/--help] [--version-info] [--verbose] command ..." : Text),
      "Generate Grafana dashboards for decision-service endpoints", "commands:"] ++
    Verb.all.map describe

end Shell
end DashboardSynthesis

open DashboardSynthesis

/-- Runs the program; the outcome is the exit code. -/
def main (words : List String) : IO UInt32 := do
  let arguments := words.map Text.ofString
  let before ← Shell.session arguments
  let (outcome, after) := (program (← Shell.randomSource) arguments).run before
  let verbose := match Invocation.read arguments with
    | .ok invocation => invocation.verbose
    | .error _ => false
  for event in after.log do
    IO.eprintln (Shell.stringOf (Shell.logLine verbose event))
  IO.eprint (Shell.stringOf after.stderr)
  IO.print (Shell.stringOf after.stdout)
  Shell.apply before.files after.files
  match outcome with
  | .ok (.exit code) => return UInt32.ofNat code.toNat
  | .ok .help | .ok .helpOnly =>
    IO.print (Shell.stringOf Shell.help)
    return 0
  | .error (.reported r) =>
    IO.eprintln (Shell.stringOf r.formatted)
    return 1
  | .error .interrupted => return UInt32.ofNat interruptedExitCode.toNat
  | .error (.broken cause) =>
    IO.eprintln (Shell.stringOf (cause.name ++ (": " : Text) ++ cause.message))
    return 1
