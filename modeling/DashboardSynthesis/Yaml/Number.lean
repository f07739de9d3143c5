import DashboardSynthesis.Decimal.Integer
import DashboardSynthesis.Yaml.Token

/-!
# Numbers of YAML

Integers are written in base 2, 8, 10 or 16, or as parts in base 60 between colons; floating-point
numbers are decimal, or have such parts too.  Underscores in a number do not count.
-/

namespace DashboardSynthesis
namespace Yaml

/-- The text without underscores. -/
def withoutGaps (t : Text) : Text := t.filter (· ≠ .scalar '_')

/-- A sign, if there is one, as whether it is negative, and what follows it. -/
def spanSign : Text → Bool × Text
  | .scalar '-' :: rest => (true, rest)
  | .scalar '+' :: rest => (false, rest)
  | t => (false, t)

/-- The number that digits denote in a base up to 16; there is none if a digit is not of the base, or
if there is no digit. -/
def ofDigits? (base : Nat) (t : Text) : Option Nat :=
  if t.isEmpty then none
  else t.foldlM (fun n c => (c.hexDigit?.filter (· < base)).map (base * n + ·)) 0

/-- A numeral in a base without a limit on its digits. -/
def readBase (base : Nat) (t : Text) : Except ScalarDefect Int :=
  match ofDigits? base t with
  | some n => .ok n
  | none => .error (.noInteger base t)

/-- A decimal numeral. -/
def readDecimal (t : Text) : Except ScalarDefect Int :=
  match Numeral.read t with
  | .ok n => .ok n
  | .error (.tooManyDigits digits) => .error (.tooManyDigits digits)
  | .error _ => .error (.noInteger 10 t)

/-- The number with the given parts in base 60, the greatest part first. -/
def ofSixtieths (parts : List Int) : Int := parts.foldl (fun n part => 60 * n + part) 0

/-- An integer without its sign. -/
def readUnsigned (t : Text) : Except ScalarDefect Int :=
  match t with
  | [] => .error .noDigits
  | [.scalar '0'] => .ok 0
  | .scalar '0' :: .scalar 'b' :: digits => readBase 2 digits
  | .scalar '0' :: .scalar 'x' :: digits => readBase 16 digits
  | .scalar '0' :: _ => readBase 8 t
  | _ =>
    if t.contains (.scalar ':') then
      return ofSixtieths (← (Text.splitOn (.scalar ':') t).mapM readDecimal)
    else readDecimal t

/-- An integer. -/
def readInt (t : Text) : Except ScalarDefect Int := do
  let (negative, unsigned) := spanSign (withoutGaps t)
  let n ← readUnsigned unsigned
  pure (if negative then -n else n)

/-- The words for numbers that have no digits. -/
def floatWords : List (Text × Binary64) :=
  [(".inf", .infinite false), (".nan", .nan), ("inf", .infinite false),
   ("infinity", .infinite false), ("nan", .nan)]

/-- A floating-point number in decimal digits, with a point and an exponent if they are given. -/
def readPlainFloat (t : Text) : Except ScalarDefect Binary64 :=
  let (negative, unsigned) := spanSign t
  let (whole, rest) := unsigned.span CodePoint.isDigit
  let (places, rest) : Text × Text :=
    match rest with
    | .scalar '.' :: rest => rest.span CodePoint.isDigit
    | rest => ([], rest)
  let exponent? : Option Int :=
    match rest with
    | [] => some 0
    | .scalar 'e' :: rest =>
      let (negative, digits) := spanSign rest
      (if digits.isEmpty || !digits.all CodePoint.isDigit then none
      else some (Text.digitsValue digits : Int)).map fun e => if negative then -e else e
    | _ => none
  match exponent? with
  | none => .error (.noFloat t)
  | some exponent =>
    if whole.isEmpty && places.isEmpty then .error (.noFloat t)
    else .ok (Binary64.ofDecimal negative (Text.digitsValue (whole ++ places))
      (exponent - places.length))

/-- The sum of parts in base 60, the smallest part first, rounded after each step. -/
def addSixtieths : (base : Nat) → (sum : Binary64) → List Binary64 → Binary64
  | _, sum, [] => sum
  | base, sum, part :: parts =>
    addSixtieths (base * 60) (sum.add (part.mul (.ofInt base))) parts

/-- A floating-point number without its sign, in lower case. -/
def readUnsignedFloat (t : Text) : Except ScalarDefect Binary64 :=
  match floatWords.find? fun (word, _) => word = t with
  | some (_, x) => .ok x
  | none =>
    if t.contains (.scalar ':') then do
      let parts ← (Text.splitOn (.scalar ':') t).mapM readPlainFloat
      pure (addSixtieths 1 (Binary64.zero false) parts.reverse)
    else readPlainFloat t

/-- A floating-point number. -/
def readFloat (t : Text) : Except ScalarDefect Binary64 := do
  let cleaned := (withoutGaps t).toLowerAscii
  if cleaned.isEmpty then throw .noDigits
  let (negative, unsigned) := spanSign cleaned
  let x ← readUnsignedFloat unsigned
  pure (if negative && x ≠ .nan then x.neg else x)

end Yaml
end DashboardSynthesis
