import DashboardSynthesis.Text.Basic

/-!
# String literals of PromQL

A literal stands in double quotes; a backslash, a double quote and a line feed inside it are escaped,
everything else stands for itself.  `quoted` writes a literal and `readQuoted?` reads one at the start
of a text: it ends at the first quote that is not escaped and holds no raw line feed.
-/

namespace DashboardSynthesis
namespace PromQL

/-- A code point inside a literal. -/
def escape : CodePoint → Text
  | .scalar '\\' => "\\\\"
  | .scalar '"' => "\\\""
  | .scalar '\n' => "\\n"
  | c => [c]

/-- A text as a literal. -/
def quoted (value : Text) : Text := .scalar '"' :: value.flatMap escape ++ ("\"" : Text)

/-- What an escape in a literal stands for. -/
def unescape? : CodePoint → Option CodePoint
  | .scalar '\\' => some (.scalar '\\')
  | .scalar '"' => some (.scalar '"')
  | .scalar 'n' => some (.scalar '\n')
  | _ => none

/-- Reads a literal whose opening quote has been consumed: its value, and what follows it. -/
def readQuotedBody? : Text → Option (Text × Text)
  | [] => none
  | .scalar '"' :: rest => some ([], rest)
  | .scalar '\n' :: _ => none
  | .scalar '\\' :: e :: rest => do
    let c ← unescape? e
    let (value, after) ← readQuotedBody? rest
    pure (c :: value, after)
  | c :: rest => do
    let (value, after) ← readQuotedBody? rest
    pure (c :: value, after)

/-- Reads a literal at the start of a text. -/
def readQuoted? : Text → Option (Text × Text)
  | .scalar '"' :: rest => readQuotedBody? rest
  | _ => none

end PromQL
end DashboardSynthesis
