import DashboardSynthesis.Decimal.Binary64
import DashboardSynthesis.Text.Basic

/-!
# The shortest decimal that reads back

A finite number is written with the fewest digits from which reading gives the number again, and
among decimals with that many digits the nearest one is taken.  `Shortest.digits?` looks at the two
neighbours of the exact value on the grids of 1, 2, … 17 digits, in that order; a neighbour is taken
only if `Binary64.ofDecimal` reads it back, so that property needs no argument about errors.  Where
no grid has a hit the exact value is written out, which reads back as well.

`Shortest.text` lays the digits out: positional for exponents of ten from `-4` up to `15`, with an
exponent of at least two digits otherwise, and always with a point or an exponent.
-/

namespace DashboardSynthesis
namespace Shortest

/-- A decimal `digits · 10 ^ exponent`. -/
structure Decimal where
  digits : Nat
  exponent : Int
  deriving DecidableEq, Repr

/-- How many digits a positive number has before the point; zero or less counts the zeros behind
the point, with the opposite sign. -/
def integerPlaces (num den : Nat) : Int :=
  if den ≤ num then (Nat.toDigits 10 (num / den)).length
  else
    let zeros := (Nat.toDigits 10 (den / num)).length - 1
    -- `10 ^ zeros ≤ den / num`, so at most one step is missing
    if den ≤ num * Nat.pow 10 zeros then 1 - (zeros : Int) else -(zeros : Int)

/-- The quotient `num / den` on the grid of multiples of `10 ^ unit`: the grid point not above it,
and whether the next one is nearer, an exact tie going to the even one. -/
def floorOnGrid (num den : Nat) (unit : Int) : Nat × Bool :=
  let (dividend, divisor) :=
    if 0 ≤ unit then (num, den * Nat.pow 10 unit.toNat) else (num * Nat.pow 10 (-unit).toNat, den)
  let low := dividend / divisor
  let rest := 2 * (dividend % divisor)
  (low, divisor < rest || (divisor = rest && low % 2 = 1))

/-- The nearer of the two grid points around `num / den` that reads back as `x`, if one does. -/
def hit? (x : Binary64) (num den : Nat) (unit : Int) : Option Decimal :=
  let (low, upIsNearer) := floorOnGrid num den unit
  let order := if upIsNearer then [low + 1, low] else [low, low + 1]
  (order.find? fun d => Binary64.ofDecimal false d unit = x).map (⟨·, unit⟩)

/-- The decimal for a positive number `significand · 2 ^ exponent`. -/
def ofPositive (significand : Nat) (exponent : Int) : Decimal :=
  let x := Binary64.finite false significand exponent
  let (num, den) := Binary64.scaled significand exponent
  let places := integerPlaces num den
  ((List.range 17).findSome? fun (n : Nat) => hit? x num den (places - (n + 1))).getD
    -- a power of two divides the same power of ten
    (if 0 ≤ exponent then ⟨num, 0⟩ else ⟨significand * Nat.pow 5 (-exponent).toNat, exponent⟩)

/-! ## Layout -/

/-- The digits without the zeros at their end. -/
def significantDigits (n : Nat) : Text :=
  ((Text.ofNat n).reverse.dropWhile (· = .scalar '0')).reverse

/-- A number of zeros. -/
def zeros (n : Nat) : Text := List.replicate n (.scalar '0')

/-- An exponent: a sign and at least two digits. -/
def exponentText (e : Int) : Text :=
  let digits := Text.ofNat e.natAbs
  (if e < 0 then "e-" else "e+" : Text) ++ (if digits.length < 2 then zeros 1 ++ digits else digits)

/-- The digits `0.digits · 10 ^ point`, positional or with an exponent. -/
def layout (digits : Text) (point : Int) : Text :=
  if -4 < point ∧ point ≤ 16 then
    if point ≤ 0 then ("0." : Text) ++ zeros (-point).toNat ++ digits
    else
      let whole := point.toNat
      if digits.length ≤ whole then digits ++ zeros (whole - digits.length) ++ (".0" : Text)
      else digits.take whole ++ (.scalar '.' :: digits.drop whole)
  else
    match digits with
    | [] => []
    | [d] => d :: exponentText (point - 1)
    | d :: rest => d :: .scalar '.' :: rest ++ exponentText (point - 1)

/-- How the three values that have no digits are spelled. -/
structure Names where
  nan : Text
  infinity : Text
  negativeInfinity : Text

/-- A number as text, under the given spelling of the values without digits. -/
def text (names : Names) : Binary64 → Text
  | .nan => names.nan
  | .infinite false => names.infinity
  | .infinite true => names.negativeInfinity
  | .finite negative significand exponent =>
    let magnitude :=
      if significand = 0 then ("0.0" : Text)
      else
        let decimal := ofPositive significand exponent
        let all := Text.ofNat decimal.digits
        layout (significantDigits decimal.digits) (decimal.exponent + all.length)
    if negative then .scalar '-' :: magnitude else magnitude

end Shortest

end DashboardSynthesis
