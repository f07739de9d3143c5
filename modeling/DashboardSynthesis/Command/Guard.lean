import DashboardSynthesis.Console.Message

/-!
# Guarding commands

A guarded command answers its failures with exit codes: a reported failure with the code of its kind,
an interruption with 130 and a breakdown with 127.  On the way the failure is logged, and a reported
one is also printed for the user.  Both can go wrong, and then the guard itself breaks.  A report is not
logged if a detail has the name of a field that the entry has anyway, or if the log does not take its
details.  It is not printed if there is no text for one of its details, since an integer exceeds the
digit limit or values are nested too deeply, or if the console does not show it: what it carries is
interpreted as markup.
-/

namespace DashboardSynthesis

/-- The exit code of a command that is interrupted. -/
def interruptedExitCode : Int := 130

/-- How failures are dealt with. -/
structure Guard where
  /-- Is the place of a failure shown even where its kind does not ask for it? -/
  showsTrace : Bool := false
  logsFailures : Bool := true
  deriving DecidableEq, Repr

namespace Run

/-- Shows the place of a failure. -/
def showTrace : Run Unit := modify fun s => { s with traceShown := true }

/-- Logs that a command has failed, unless something goes wrong in that. -/
def logFailed (r : Report) : Option Breakdown → Run Unit
  | some cause => breakWith cause
  | none => log (.commandFailed r)

/-- Logs a reported failure. -/
def logReport (r : Report) : Run Unit :=
  match r.reservedDetail? with
  | some key => breakWith (.repeatedField key)
  | none => do logFailed r ((← get).platform.logFault r.details)

/-- Prints a reported failure for the user. -/
def complainOf (r : Report) : Run Unit := do
  if !Json.membersArePrintable r.details then breakWith (.tooManyDigits none)
  else if (← get).platform.levels < Json.membersNesting r.details then breakWith .tooDeep
  else complain r.formatted

end Run

namespace Guard

/-- Deals with a failure; the outcome is the exit code. -/
def answer (g : Guard) : Failure → Run Int
  | .reported r => do
    if g.logsFailures then Run.logReport r
    Run.complainOf r
    if r.kind.showsTrace || g.showsTrace then Run.showTrace
    pure r.kind.exitCode
  | .interrupted => do
    if g.logsFailures then Run.log .commandInterrupted
    pure interruptedExitCode
  | .broken cause => do
    if g.logsFailures then Run.log (.commandBroke cause)
    if g.showsTrace then Run.showTrace
    pure LogEvent.unknownExitCode

/-- A command with its failures dealt with. -/
def run (g : Guard) (command : Run Int) : Run Int := tryCatch command g.answer

end Guard

end DashboardSynthesis
