import DashboardSynthesis.Arguments.Invocation
import DashboardSynthesis.Text.LetterCase

/-!
# The program

The program reads its command line, sets up the log and runs the command.  What goes wrong in setting
up the log is outside of any command, so nothing answers it with an exit code.
-/

namespace DashboardSynthesis

/-- How the program ends. -/
inductive Ending where
  /-- With an exit code. -/
  | exit (code : Int)
  /-- With help, which has been asked for. -/
  | help
  /-- With help, since there is no command. -/
  | helpOnly
  deriving DecidableEq, Repr

/-- The exit code for a command line that is refused. -/
def misuseExitCode : Int := 2

/-- The line about a command line that is refused. -/
def misuseLine (program : Text) (why : Misuse) : Text :=
  program ++ (": error: " : Text) ++ why.message ++ ("\n" : Text)

/-- The line with the version of the program. -/
def versionLine : Text := programName ++ (.scalar ' ' :: programVersion) ++ ("\n" : Text)

/-- Sets the threshold of the log: to the lowest level if logging is verbose, else to the level of the
settings. -/
def setUpLog (verbose : Bool) : Run Unit := do
  if verbose then modify fun s => { s with threshold := LogLevel.debug.rank }
  else
    let settings ← Run.settings
    let name := Text.toUpper settings.logLevel
    match LogLevel.threshold? name with
    | some threshold => modify fun s => { s with threshold }
    | none => Run.breakWith (.unknownLevel name)

/-- Ends without running a command. -/
def endAt : Stop → Run Ending
  | .help => pure .help
  | .version => do
    Run.print versionLine
    pure (.exit 0)
  | .misuse program why => do
    Run.printError (misuseLine program why)
    pure (.exit misuseExitCode)

/-- Runs the program with a command line. -/
def program (identity : IdentitySource) (arguments : List Text) : Run Ending :=
  match Invocation.read arguments with
  | .error stop => endAt stop
  | .ok invocation => do
    setUpLog invocation.verbose
    match invocation.command with
    | none => pure .helpOnly
    | some command => return .exit (← command.run identity)

end DashboardSynthesis
