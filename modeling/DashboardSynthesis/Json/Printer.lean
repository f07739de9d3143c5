import DashboardSynthesis.Decimal.Shortest
import DashboardSynthesis.Json.Reader

/-!
# Writing JSON

Text is written as it stands, but for the quote, the backslash and the control characters below
U+0020.  A layout is compact, on one line with a space behind each comma, or indented, with every
item and member of a non-empty list or object on a line of its own.

Writing as such cannot fail.  What can be written under the digit limit is a separate question,
`Json.isPrintable`, and `Json.print?` asks it first.
-/

namespace DashboardSynthesis
namespace Json

/-- How a value is laid out. -/
inductive Layout where
  /-- On one line. -/
  | compact
  /-- One line for each item, indented by `width` for each level. -/
  | indented (width : Nat)
  deriving DecidableEq, Repr

/-- The layout for an indentation; a negative one only breaks lines. -/
def Layout.ofIndent : Option Int → Layout
  | none => .compact
  | some width => .indented width.toNat

/-- How the floating-point values without digits are written. -/
def floatNames : Shortest.Names := ⟨"NaN", "Infinity", "-Infinity"⟩

/-- A hexadecimal digit in lower case. -/
def hexDigit (n : Nat) : CodePoint := .scalar (Nat.digitChar n)

/-- A code point inside a string. -/
def escape (c : CodePoint) : Text :=
  match c with
  | .scalar '"' => "\\\""
  | .scalar '\\' => "\\\\"
  | .scalar '\n' => "\\n"
  | .scalar '\r' => "\\r"
  | .scalar '\t' => "\\t"
  | .scalar '\x08' => "\\b"
  | .scalar '\x0c' => "\\f"
  | c =>
    if c.value < 0x20 then ("\\u00" : Text) ++ [hexDigit (c.value / 16), hexDigit (c.value % 16)]
    else [c]

/-- A text as a string in quotes. -/
def quote (t : Text) : Text := .scalar '"' :: t.flatMap escape ++ ("\"" : Text)

/-- The line break and indentation before something at a nesting level. -/
def Layout.lineBreak (layout : Layout) (level : Nat) : Text :=
  match layout with
  | .compact => []
  | .indented width => .scalar '\n' :: List.replicate (width * level) (.scalar ' ')

/-- What stands between two items at a nesting level. -/
def Layout.separator (layout : Layout) (level : Nat) : Text :=
  match layout with
  | .compact => ", "
  | .indented _ => .scalar ',' :: layout.lineBreak level

mutual

/-- A value as text at a nesting level. -/
def print (layout : Layout) (level : Nat) : Json → Text
  | .null => "null"
  | .bool true => "true"
  | .bool false => "false"
  | .int n => Text.ofInt n
  | .float x => Shortest.text floatNames x
  | .str s => quote s
  | .arr [] => "[]"
  | .arr (item :: items) =>
    .scalar '[' :: layout.lineBreak (level + 1) ++ print layout (level + 1) item ++
      printItems layout (level + 1) items ++ layout.lineBreak level ++ ("]" : Text)
  | .obj [] => "\x7b\x7d"
  | .obj ((key, value) :: members) =>
    .scalar '{' :: layout.lineBreak (level + 1) ++ quote key ++ (": " : Text) ++
      print layout (level + 1) value ++
      printMembers layout (level + 1) members ++ layout.lineBreak level ++ ("\x7d" : Text)

/-- The items after the first one, each behind a separator. -/
def printItems (layout : Layout) (level : Nat) : List Json → Text
  | [] => []
  | item :: items =>
    layout.separator level ++ print layout level item ++ printItems layout level items

/-- The members after the first one, each behind a separator. -/
def printMembers (layout : Layout) (level : Nat) : List (Text × Json) → Text
  | [] => []
  | (key, value) :: members =>
    layout.separator level ++ quote key ++ (": " : Text) ++ print layout level value ++
      printMembers layout level members

end

mutual

/-- Does every integer in the value keep the digit limit? -/
def isPrintable : Json → Bool
  | .int n => (Nat.toDigits 10 n.natAbs).length ≤ digitLimit
  | .arr items => itemsArePrintable items
  | .obj members => membersArePrintable members
  | _ => true

/-- Does every integer in the items keep the digit limit? -/
def itemsArePrintable : List Json → Bool
  | [] => true
  | item :: items => isPrintable item && itemsArePrintable items

/-- Does every integer in the members keep the digit limit? -/
def membersArePrintable : List (Text × Json) → Bool
  | [] => true
  | (_, value) :: members => isPrintable value && membersArePrintable members

end

mutual

/-- How deep lists and objects are nested in the value. -/
def depth : Json → Nat
  | .arr items => itemsDepth items + 1
  | .obj members => membersDepth members + 1
  | _ => 0

/-- How deep lists and objects are nested in the items. -/
def itemsDepth : List Json → Nat
  | [] => 0
  | item :: items => max (depth item) (itemsDepth items)

/-- How deep lists and objects are nested in the members. -/
def membersDepth : List (Text × Json) → Nat
  | [] => 0
  | (_, value) :: members => max (depth value) (membersDepth members)

end

/-- The value as text, unless an integer exceeds the digit limit. -/
def print? (layout : Layout) (value : Json) : Option Text :=
  if value.isPrintable then some (print layout 0 value) else none

end Json

end DashboardSynthesis
