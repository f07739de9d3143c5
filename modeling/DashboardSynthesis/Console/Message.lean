import DashboardSynthesis.Session

/-!
# Messages on the console

Messages are lines with markup, and what is put into them is interpreted as markup too.  Reports on
failures go to standard error, so that standard output stays clean; everything else goes to standard
output.  A message that the console does not show is not printed, and the command breaks.
-/

namespace DashboardSynthesis

/-- The line for something achieved. -/
def successLine (message : Text) : Text :=
  ("[success]✓ " : Text) ++ message ++ ("[/success]" : Text)

/-- The line for a warning. -/
def warningLine (message : Text) : Text :=
  ("[warning]⚠ " : Text) ++ message ++ ("[/warning]" : Text)

/-- The line for an error. -/
def errorLine (message : Text) : Text := ("[error]✗ " : Text) ++ message ++ ("[/error]" : Text)

/-- The line for a value and what it is. -/
def valueLine (key value : Text) : Text :=
  ("  [cyan]" : Text) ++ key ++ (":[/cyan] " : Text) ++ value

namespace Run

/-- Prints to standard output what becomes of a message, unless nothing does. -/
def printShown : Except Breakdown Text → Run Unit
  | .ok t => print t
  | .error cause => breakWith cause

/-- Prints a message to standard output. -/
def say (message : Text) : Run Unit := do
  printShown ((← get).platform.console.text message)

/-- Prints that something has been achieved. -/
def saySuccess (message : Text) : Run Unit := say (successLine message)

/-- Prints a warning. -/
def sayWarning (message : Text) : Run Unit := say (warningLine message)

/-- Prints a value and what it is. -/
def sayValue (key value : Text) : Run Unit := say (valueLine key value)

/-- Prints a title in a box, below an empty line. -/
def sayTitle (title : Text) : Run Unit := do
  print "\n"
  printShown ((← get).platform.console.box (("[bold]" : Text) ++ title ++ ("[/bold]" : Text)))

/-- Prints a table. -/
def sayTable (table : Layout.Table) : Run Unit := do print ((← get).platform.console.table table)

/-- Prints to standard error what becomes of a message, unless nothing does. -/
def printErrorShown : Except Breakdown Text → Run Unit
  | .ok t => printError t
  | .error cause => breakWith cause

/-- Prints an error message to standard error. -/
def complain (message : Text) : Run Unit := do
  printErrorShown ((← get).platform.errorConsole.text (errorLine message))

end Run

end DashboardSynthesis
