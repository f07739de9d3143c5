import DashboardSynthesis.Text.Blank

/-!
# Files of variables

A file of variables has a line `name=value` for each of them, and `export` may stand in front.  A
value in single or double quotes can go over several lines and can hold escapes; any other value ends
with its line, or before a blank and `#`.  Lines that start with `#` are comments.  A line that does
not keep to this is passed over.  A name without `=` has no value.
-/

namespace DashboardSynthesis
namespace VariableFile

/-- A blank that ends no line. -/
def isSpace (c : CodePoint) : Bool := c.isBlank && c ≠ .scalar '\n' && c ≠ .scalar '\r'

/-- Is this not the end of a line? -/
def isInLine (c : CodePoint) : Bool := c ≠ .scalar '\n'

/-- What is behind the line on which a text starts. -/
def nextLine (t : Text) : Text := (t.dropWhile isInLine).drop 1

/-- A quoted value up to the first quote that is not escaped, and what follows it.  If there is no
such quote, the last escaped one ends the value. -/
def spanQuoted? (quote : Char) : Text → Option (Text × Text)
  | .scalar '\\' :: next :: rest =>
    if next = .scalar quote then
      match spanQuoted? quote rest with
      | some (value, after) => some (.scalar '\\' :: next :: value, after)
      | none => some ([.scalar '\\'], rest)
    else (spanQuoted? quote (next :: rest)).map fun (value, after) => (.scalar '\\' :: value, after)
  | c :: rest =>
    if c = .scalar quote then some ([], rest)
    else (spanQuoted? quote rest).map fun (value, after) => (c :: value, after)
  | [] => none

/-- What an escape between single quotes stands for. -/
def singleEscape? : CodePoint → Option CodePoint
  | .scalar '\\' => some (.scalar '\\')
  | .scalar '\'' => some (.scalar '\'')
  | _ => none

/-- What an escape between double quotes stands for. -/
def doubleEscape? : CodePoint → Option CodePoint
  | .scalar '"' => some (.scalar '"')
  | .scalar 'a' => some (.scalar '\x07')
  | .scalar 'b' => some (.scalar '\x08')
  | .scalar 'f' => some (.scalar '\x0c')
  | .scalar 'n' => some (.scalar '\n')
  | .scalar 'r' => some (.scalar '\r')
  | .scalar 't' => some (.scalar '\t')
  | .scalar 'v' => some (.scalar '\x0b')
  | c => singleEscape? c

/-- A value with its escapes resolved; a backslash in front of anything else stays. -/
def unescape (escape? : CodePoint → Option CodePoint) : Text → Text
  | .scalar '\\' :: e :: rest =>
    match escape? e with
    | some c => c :: unescape escape? rest
    | none => .scalar '\\' :: unescape escape? (e :: rest)
  | c :: rest => c :: unescape escape? rest
  | [] => []

/-- The text before the first blanks with `#` behind them. -/
def beforeComment : Text → Text
  | [] => []
  | c :: rest =>
    if c.isBlank then
      match (c :: rest).dropWhile CodePoint.isBlank with
      | .scalar '#' :: _ => []
      | _ => c :: beforeComment rest
    else c :: beforeComment rest

/-- The value at the start of a text and what follows it; none if a quote is not closed. -/
def readValue? (t : Text) : Option (Text × Text) :=
  match t with
  | .scalar '\'' :: rest =>
    (spanQuoted? '\'' rest).map fun (value, after) => (unescape singleEscape? value, after)
  | .scalar '"' :: rest =>
    (spanQuoted? '"' rest).map fun (value, after) => (unescape doubleEscape? value, after)
  | t =>
    some (Text.trimEnd CodePoint.isBlank (beforeComment (t.takeWhile isInLine)),
      t.dropWhile isInLine)

/-- A name: in single quotes, or up to a blank, `=` or `#`. -/
def readName? (t : Text) : Option (Text × Text) :=
  match t with
  | .scalar '\'' :: rest =>
    match rest.span (· ≠ .scalar '\'') with
    | (_, []) | ([], _) => none
    | (name, _ :: after) => some (name, after)
  | t =>
    match t.span fun c => c ≠ .scalar '=' && c ≠ .scalar '#' && !c.isBlank with
    | ([], _) => none
    | (name, after) => some (name, after)

/-- The text behind `export` and blanks, if it starts with them. -/
def dropExport (t : Text) : Text :=
  match Text.dropPrefix? "export" t with
  | some (c :: rest) => if isSpace c then (c :: rest).dropWhile isSpace else t
  | _ => t

/-- The variable on a line that starts neither with blanks nor with `#`, and what follows the line.
Where the line does not keep to the rules, the result is what is left of the text there. -/
def readVariable (t : Text) : Except Text ((Text × Option Text) × Text) := do
  let start := dropExport t
  let (name, rest) ← (readName? start).elim (.error start) .ok
  let (value, rest) ←
    match rest.dropWhile isSpace with
    | .scalar '=' :: after =>
      let start := after.dropWhile isSpace
      (readValue? start).elim (.error start) fun (value, rest) => .ok (some value, rest)
    | rest => .ok (none, rest)
  let rest :=
    match rest.dropWhile isSpace with
    | .scalar '#' :: comment => comment.dropWhile isInLine
    | rest => rest
  match rest with
  | [] => .ok ((name, value), [])
  | .scalar '\n' :: rest => .ok ((name, value), rest)
  | rest => .error rest

/-- The variables in a text, in order; each line takes one unit of the supply. -/
def readFrom : (supply : Nat) → Text → List (Text × Option Text)
  | 0, _ => []
  | supply + 1, t =>
    match t.dropWhile CodePoint.isBlank with
    | [] => []
    | .scalar '#' :: rest => readFrom supply (nextLine rest)
    | line =>
      match readVariable line with
      | .ok (named, rest) => named :: readFrom supply rest
      | .error rest => readFrom supply (nextLine rest)

/-- The variables in a file, in order. -/
def read (t : Text) : List (Text × Option Text) := readFrom t.length t

end VariableFile
end DashboardSynthesis
