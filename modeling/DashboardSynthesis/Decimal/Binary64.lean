/-!
# Binary floating-point numbers of 64 bits

A finite number is `± significand · 2 ^ exponent` with a significand below `2 ^ 53`, and the
exponent is the least one that allows this, but not below `-1074`.  Values are built by one
function, `Binary64.ofRatio`, which rounds an exact quotient to the nearest number and a tie to the
even significand; so reading a decimal, adding and multiplying are exact arithmetic on natural
numbers followed by one rounding, and nothing here depends on a machine's arithmetic.
-/

namespace DashboardSynthesis

/-- A binary floating-point number of 64 bits.  Zero has a sign, and there is one value that is
not a number. -/
inductive Binary64 where
  | nan
  | infinite (negative : Bool)
  | finite (negative : Bool) (significand : Nat) (exponent : Int)
  deriving DecidableEq, Repr

namespace Binary64

/-- Zero with a sign. -/
def zero (negative : Bool) : Binary64 := .finite negative 0 (-1074)

/-- The quotient `num / den`, rounded to the nearest integer, a tie to the even one. -/
def roundDiv (num den : Nat) : Nat :=
  let q := num / den
  let r := num % den
  if 2 * r < den then q else if den < 2 * r then q + 1 else if q % 2 = 0 then q else q + 1

/-- The number `num · 2 ^ exponent` as a fraction of natural numbers. -/
def scaled (num : Nat) (exponent : Int) : Nat × Nat :=
  if 0 ≤ exponent then (num * Nat.pow 2 exponent.toNat, 1) else (num, Nat.pow 2 (-exponent).toNat)

/-- The number nearest to `± num / den`; what is too large becomes infinite. -/
def ofRatio (negative : Bool) (num den : Nat) : Binary64 :=
  if num = 0 then zero negative
  else
    -- the quotient lies strictly between `2 ^ (low + 52)` and `2 ^ (low + 54)`
    let low := max ((num.log2 : Int) - den.log2 - 53) (-1074)
    let divisor := (scaled 1 low).1 * den
    let dividend := num * (scaled 1 low).2
    let (exponent, divisor) :=
      if Nat.pow 2 53 * divisor ≤ dividend then (low + 1, 2 * divisor) else (low, divisor)
    let significand := roundDiv dividend divisor
    let (significand, exponent) :=
      if significand = Nat.pow 2 53 then (Nat.pow 2 52, exponent + 1) else (significand, exponent)
    if 971 < exponent then .infinite negative else .finite negative significand exponent

/-- The number nearest to `± digits · 10 ^ exponent`.  The first two cases only keep the exact
arithmetic small: beyond them everything is infinite, or zero. -/
def ofDecimal (negative : Bool) (digits : Nat) (exponent : Int) : Binary64 :=
  if digits = 0 then zero negative
  else
    let places := ((Nat.toDigits 10 digits).length : Int) + exponent
    if 400 < places then .infinite negative
    else if places < -400 then zero negative
    else if 0 ≤ exponent then ofRatio negative (digits * Nat.pow 10 exponent.toNat) 1
    else ofRatio negative digits (Nat.pow 10 (-exponent).toNat)

/-- The nearest number to an integer. -/
def ofInt (n : Int) : Binary64 := ofRatio (n < 0) n.natAbs 1

/-- Is this zero, of either sign? -/
def isZero : Binary64 → Bool
  | finite _ significand _ => significand == 0
  | _ => false

/-- The sign, which zero and infinity have too. -/
def isNegative : Binary64 → Bool
  | nan => false
  | infinite negative => negative
  | finite negative _ _ => negative

/-- The number with the other sign. -/
def neg : Binary64 → Binary64
  | nan => nan
  | infinite negative => infinite !negative
  | finite negative significand exponent => finite (!negative) significand exponent

/-- The integer between zero and a finite number that is nearest to the number. -/
def truncate (negative : Bool) (significand : Nat) (exponent : Int) : Int :=
  let (num, den) := scaled significand exponent
  if negative then -((num / den : Nat) : Int) else (num / den : Nat)

/-- The exact value of a finite number as numerator and denominator. -/
def ratio (negative : Bool) (significand : Nat) (exponent : Int) : Int × Nat :=
  let (num, den) := scaled significand exponent
  (if negative then -(num : Int) else num, den)

/-- The product, rounded once. -/
def mul : Binary64 → Binary64 → Binary64
  | nan, _ => nan
  | _, nan => nan
  | infinite s, y => if y.isZero then nan else infinite (s != y.isNegative)
  | x, infinite s => if x.isZero then nan else infinite (s != x.isNegative)
  | finite s m e, finite s' m' e' =>
    let (num, den) := scaled (m * m') (e + e')
    ofRatio (s != s') num den

/-- The sum, rounded once; a sum that is exactly zero is negative only if both parts are. -/
def add : Binary64 → Binary64 → Binary64
  | nan, _ => nan
  | _, nan => nan
  | infinite s, infinite s' => if s = s' then infinite s else nan
  | infinite s, _ => infinite s
  | _, infinite s => infinite s
  | finite s m e, finite s' m' e' =>
    let (n, d) := ratio s m e
    let (n', d') := ratio s' m' e'
    let sum := n * d' + n' * d
    if sum = 0 then zero (s && s') else ofRatio (sum < 0) sum.natAbs (d * d')

end Binary64

end DashboardSynthesis
