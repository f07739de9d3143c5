import DashboardSynthesis.Text.Basic

/-!
# Blanks

The code points with the Unicode property of white space, with the ways in which texts are trimmed
and divided by them.
-/

namespace DashboardSynthesis

/-- The ranges of code points that are white space. -/
def blankRanges : List (Nat × Nat) :=
  [(0x09, 0x0D), (0x1C, 0x20), (0x85, 0x85), (0xA0, 0xA0), (0x1680, 0x1680), (0x2000, 0x200A),
   (0x2028, 0x2029), (0x202F, 0x202F), (0x205F, 0x205F), (0x3000, 0x3000)]

/-- Is this code point white space? -/
def CodePoint.isBlank (c : CodePoint) : Bool :=
  blankRanges.any fun (low, high) => low ≤ c.value && c.value ≤ high

namespace Text

/-- The text without the code points satisfying `p` at its start. -/
def trimStart (p : CodePoint → Bool) (t : Text) : Text := t.dropWhile p

/-- The text without the code points satisfying `p` at its end. -/
def trimEnd (p : CodePoint → Bool) (t : Text) : Text := (t.reverse.dropWhile p).reverse

/-- The text without the code points satisfying `p` at both ends. -/
def trimBy (p : CodePoint → Bool) (t : Text) : Text := trimEnd p (trimStart p t)

/-- The text without white space at both ends. -/
def trim (t : Text) : Text := trimBy CodePoint.isBlank t

/-- The pieces of a text between white space. -/
def words (t : Text) : List Text :=
  (splitOn (.scalar ' ') (t.map fun c => if c.isBlank then .scalar ' ' else c)).filter (!·.isEmpty)

end Text

end DashboardSynthesis
