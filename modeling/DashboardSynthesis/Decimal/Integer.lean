import DashboardSynthesis.Json.Printer
import DashboardSynthesis.Text.Blank
import DashboardSynthesis.Text.DecimalDigit
import DashboardSynthesis.Text.Literal

/-!
# Values as integers

A JSON value counts as an integer where a number is asked for: a boolean is zero or one, a
floating-point number loses its fraction, and a text is read as a decimal numeral, with white space
around it, a sign, digits of any script and single underscores between digits.  The other values are
no integers, and each way of failing is a constructor of `NotInteger`.
-/

namespace DashboardSynthesis

/-- Why a value does not count as an integer. -/
inductive NotInteger where
  /-- The text is no numeral. -/
  | noNumeral (text : Text)
  /-- The numeral has more digits than the limit allows. -/
  | tooManyDigits (digits : Nat)
  /-- The value is not a number. -/
  | notANumber
  /-- The value is infinite. -/
  | infinite
  /-- Values of this kind are never integers. -/
  | kind (name : Text)
  deriving DecidableEq, Repr

namespace NotInteger

/-- The reason in words. -/
def message : NotInteger → Text
  | noNumeral t =>
    ("invalid literal for int() with base 10: " : Text) ++ (Text.literal t).take 200
  | tooManyDigits n => Json.digitLimitMessage (some n)
  | notANumber => "cannot convert float NaN to integer"
  | infinite => "cannot convert float infinity to integer"
  | kind name =>
    ("int() argument must be a string, a bytes-like object or a real number, not '" : Text) ++
      name ++ ("'" : Text)

end NotInteger

namespace Numeral

/-- White space that may stand around a numeral: the separators U+001C to U+001F are not among it. -/
def isBlank (c : CodePoint) : Bool := c.isBlank && !(0x1C ≤ c.value && c.value ≤ 0x1F)

/-- Splits digits of any script, with single underscores between them, off a text.  The result holds
the digits' values and what follows; `none` says that an underscore stands where none may. -/
def spanDigits : Text → Option (List Nat × Text)
  | [] => some ([], [])
  | c :: rest =>
    match c.decimalDigit? with
    | none => if c = .scalar '_' then none else some ([], c :: rest)
    | some d =>
      match rest with
      | .scalar '_' :: next :: rest' =>
        if next.decimalDigit?.isSome then
          (spanDigits (next :: rest')).map fun (ds, after) => (d :: ds, after)
        else none
      | .scalar '_' :: [] => none
      | rest => (spanDigits rest).map fun (ds, after) => (d :: ds, after)

/-- Reads a decimal numeral.  Too many digits are reported before anything that follows them. -/
def read (t : Text) : Except NotInteger Int :=
  let (negative, unsigned) : Bool × Text :=
    match t.dropWhile isBlank with
    | .scalar '-' :: rest => (true, rest)
    | .scalar '+' :: rest => (false, rest)
    | rest => (false, rest)
  match spanDigits unsigned with
  | none => .error (.noNumeral t)
  | some (digits, after) =>
    if Json.digitLimit < digits.length then .error (.tooManyDigits digits.length)
    else if digits.isEmpty || !after.all isBlank then .error (.noNumeral t)
    else
      let magnitude : Nat := digits.foldl (fun n d => 10 * n + d) 0
      .ok (if negative then -magnitude else magnitude)

end Numeral

/-- A JSON value as an integer. -/
def Json.toInteger : Json → Except NotInteger Int
  | .bool b => .ok (if b then 1 else 0)
  | .int n => .ok n
  | .float .nan => .error .notANumber
  | .float (.infinite _) => .error .infinite
  | .float (.finite negative significand exponent) =>
    .ok (Binary64.truncate negative significand exponent)
  | .str t => Numeral.read t
  | .null => .error (.kind "NoneType")
  | .arr _ => .error (.kind "list")
  | .obj _ => .error (.kind "dict")

end DashboardSynthesis
