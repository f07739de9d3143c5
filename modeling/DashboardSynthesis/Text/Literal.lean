import DashboardSynthesis.Text.Printable

/-!
# Texts as literals

A message that quotes a text writes it as a literal: in single quotes, or in double quotes if only
single quotes occur in it, with escapes for backslashes, for the quote in use and for whatever is
not printable.
-/

namespace DashboardSynthesis
namespace Text

/-- A number in hexadecimal with at least `width` digits. -/
def hexPadded (width n : Nat) : Text :=
  let digits := (Nat.toDigits 16 n).map CodePoint.scalar
  List.replicate (width - digits.length) (.scalar '0') ++ digits

/-- A code point inside a literal between the given quotes. -/
def literalEscape (quote : Char) (c : CodePoint) : Text :=
  if c = .scalar quote ∨ c = .scalar '\\' then [.scalar '\\', c]
  else if c = .scalar '\n' then "\\n"
  else if c = .scalar '\r' then "\\r"
  else if c = .scalar '\t' then "\\t"
  else if c.isPrintable then [c]
  else if c.value < 0x100 then ("\\x" : Text) ++ hexPadded 2 c.value
  else if c.value < 0x10000 then ("\\u" : Text) ++ hexPadded 4 c.value
  else ("\\U" : Text) ++ hexPadded 8 c.value

/-- A text as a literal. -/
def literal (t : Text) : Text :=
  let quote := if t.contains (.scalar '\'') && !t.contains (.scalar '"') then '"' else '\''
  .scalar quote :: t.flatMap (literalEscape quote) ++ [.scalar quote]

end Text
end DashboardSynthesis
