import DashboardSynthesis.Json.Reader
import DashboardSynthesis.Text.Blank
import DashboardSynthesis.Text.DecimalDigit
import DashboardSynthesis.Text.LetterCase

/-!
# Styles in console lines

A style says how text looks: marks that are set or taken away, a color, the color of the ground and a
link.  It is described in words, in any order, and the same style can be described in several ways.
Each style has one name, in which the words come in a fixed order, so that descriptions of one style
can be recognised (`Style.nameOf`).

A word that is no color makes the description one of no style.  A color by its components is different:
it is read as numbers before it is known to be a color, so a component that is no number that can be
read is a fault (`ComponentFault`), and what is wrong behind it does not count.
-/

namespace DashboardSynthesis

/-! ## Colors -/

/-- The colors with a name of their own. -/
def colorNames : List String :=
  ["black", "red", "green", "yellow", "blue", "magenta", "cyan", "white", "bright_black",
   "bright_red", "bright_green", "bright_yellow", "bright_blue", "bright_magenta", "bright_cyan",
   "bright_white", "grey0", "gray0", "navy_blue", "dark_blue", "blue3", "blue1", "dark_green",
   "deep_sky_blue4", "dodger_blue3", "dodger_blue2", "green4", "spring_green4", "turquoise4",
   "deep_sky_blue3", "dodger_blue1", "green3", "spring_green3", "dark_cyan", "light_sea_green",
   "deep_sky_blue2", "deep_sky_blue1", "spring_green2", "cyan3", "dark_turquoise", "turquoise2",
   "green1", "spring_green1", "medium_spring_green", "cyan2", "cyan1", "dark_red", "deep_pink4",
   "purple4", "purple3", "blue_violet", "orange4", "grey37", "gray37", "medium_purple4",
   "slate_blue3", "royal_blue1", "chartreuse4", "dark_sea_green4", "pale_turquoise4",
   "steel_blue", "steel_blue3", "cornflower_blue", "chartreuse3", "cadet_blue", "sky_blue3",
   "steel_blue1", "pale_green3", "sea_green3", "aquamarine3", "medium_turquoise", "chartreuse2",
   "sea_green2", "sea_green1", "aquamarine1", "dark_slate_gray2", "dark_magenta", "dark_violet",
   "purple", "light_pink4", "plum4", "medium_purple3", "slate_blue1", "yellow4", "wheat4",
   "grey53", "gray53", "light_slate_grey", "light_slate_gray", "medium_purple",
   "light_slate_blue", "dark_olive_green3", "dark_sea_green", "light_sky_blue3", "sky_blue2",
   "dark_sea_green3", "dark_slate_gray3", "sky_blue1", "chartreuse1", "light_green",
   "pale_green1", "dark_slate_gray1", "red3", "medium_violet_red", "magenta3", "dark_orange3",
   "indian_red", "hot_pink3", "medium_orchid3", "medium_orchid", "medium_purple2",
   "dark_goldenrod", "light_salmon3", "rosy_brown", "grey63", "gray63", "medium_purple1",
   "gold3", "dark_khaki", "navajo_white3", "grey69", "gray69", "light_steel_blue3",
   "light_steel_blue", "yellow3", "dark_sea_green2", "light_cyan3", "light_sky_blue1",
   "green_yellow", "dark_olive_green2", "dark_sea_green1", "pale_turquoise1", "deep_pink3",
   "magenta2", "hot_pink2", "orchid", "medium_orchid1", "orange3", "light_pink3", "pink3",
   "plum3", "violet", "light_goldenrod3", "tan", "misty_rose3", "thistle3", "plum2", "khaki3",
   "light_goldenrod2", "light_yellow3", "grey84", "gray84", "light_steel_blue1", "yellow2",
   "dark_olive_green1", "honeydew2", "light_cyan1", "red1", "deep_pink2", "deep_pink1",
   "magenta1", "orange_red1", "indian_red1", "hot_pink", "dark_orange", "salmon1", "light_coral",
   "pale_violet_red1", "orchid2", "orchid1", "orange1", "sandy_brown", "light_salmon1",
   "light_pink1", "pink1", "plum1", "gold1", "navajo_white1", "misty_rose1", "thistle1",
   "yellow1", "light_goldenrod1", "khaki1", "wheat1", "cornsilk1", "grey100", "gray100", "grey3",
   "gray3", "grey7", "gray7", "grey11", "gray11", "grey15", "gray15", "grey19", "gray19",
   "grey23", "gray23", "grey27", "gray27", "grey30", "gray30", "grey35", "gray35", "grey39",
   "gray39", "grey42", "gray42", "grey46", "gray46", "grey50", "gray50", "grey54", "gray54",
   "grey58", "gray58", "grey62", "gray62", "grey66", "gray66", "grey70", "gray70", "grey74",
   "gray74", "grey78", "gray78", "grey82", "gray82", "grey85", "gray85", "grey89", "gray89",
   "grey93", "gray93"]

/-- Is this the name of a color? -/
def isColorName (t : Text) : Bool := (Text.toString? t).any fun name => colorNames.contains name

/-- Why a component of a color is not read. -/
inductive ComponentFault where
  | missing
  | tooManyDigits (digits : Nat)
  deriving DecidableEq, Repr

/-- The number in decimal digits of any script, if there is nothing else. -/
def colorNumber? (t : Text) : Option Nat :=
  (t.mapM CodePoint.decimalDigit?).map fun digits => digits.foldl (fun n d => 10 * n + d) 0

/-- What stands in `t` between a beginning and a closing parenthesis at the end, if there is anything. -/
def inParentheses? (beginning t : Text) : Option Text :=
  match (Text.dropPrefix? (beginning ++ [.scalar '(']) t).map List.reverse with
  | some (.scalar ')' :: c :: content) => some (c :: content).reverse
  | _ => none

/-- Is this six hexadecimal digits behind a number sign? -/
def isHexColor : Text → Bool
  | .scalar '#' :: digits => digits.length = 6 && digits.all fun c => c.hexDigit?.isSome
  | _ => false

/-- Is this a color by its number, in one to three digits? -/
def isNumberedColor (t : Text) : Bool :=
  (inParentheses? "color" t).any fun number =>
    number.length ≤ 3 && number.all CodePoint.isDigit && (colorNumber? number).any (· ≤ 255)

/-- The components of a color, as numbers: digits between two commas. -/
def components? (t : Text) : Option (List (Text × Nat)) := do
  let content ← inParentheses? "rgb" t
  let parts := Text.splitOn (.scalar ',') content
  let numbers ← parts.mapM colorNumber?
  if parts.length = 3 then some (parts.zip numbers) else none

/-- Reads a component of a color, given its digits and its value. -/
def readComponent (digits : Text) (value : Nat) : Except ComponentFault Nat :=
  if digits.isEmpty then .error .missing
  else if Json.digitLimit < digits.length then .error (.tooManyDigits digits.length)
  else .ok value

/-- Is this a color by its three components? -/
def isMixedColor (t : Text) : Except ComponentFault Bool :=
  match components? t with
  | none => .ok false
  | some components => do
    let values ← components.mapM fun (digits, value) => readComponent digits value
    pure (values.all (· ≤ 255))

/-- Is this word, which is in lower case, a color? -/
def isColor (word : Text) : Except ComponentFault Bool :=
  if word = ("default" : Text) || isColorName word || isHexColor word || isNumberedColor word then
    .ok true
  else isMixedColor word

/-! ## Styles -/

/-- How text looks. -/
structure Style where
  /-- Marks with whether they are set, the one said last in front. -/
  marks : List (Text × Bool) := []
  color : Option Text := none
  ground : Option Text := none
  link : Option Text := none
  deriving DecidableEq, Repr

namespace Style

/-- The marks, in the order in which a name of a style lists them. -/
def markNames : List Text :=
  ["bold", "dim", "italic", "underline", "blink", "blink2", "reverse", "conceal", "strike",
   "underline2", "frame", "encircle", "overline"]

/-- The marks that have a short form, with that form in front. -/
def markShortForms : List (Text × Text) :=
  [("b", "bold"), ("d", "dim"), ("i", "italic"), ("u", "underline"), ("uu", "underline2"),
   ("r", "reverse"), ("c", "conceal"), ("s", "strike"), ("o", "overline")]

/-- The mark that a word stands for. -/
def mark? (word : Text) : Option Text :=
  match markShortForms.find? fun (short, _) => short = word with
  | some (_, mark) => some mark
  | none => if markNames.contains word then some word else none

/-- The style `s` with what words add to it, if they describe a style. -/
def describe? (s : Style) : List Text → Except ComponentFault (Option Style)
  | [] => .ok (some s)
  | word :: rest =>
    let lower := Text.toLower word
    if lower = ("on" : Text) then
      match rest with
      | [] => .ok none
      | ground :: rest => do
        let ground := Text.toLower ground
        if ← isColor ground then describe? { s with ground := some ground } rest else pure none
    else if lower = ("not" : Text) then
      match rest with
      | [] => .ok none
      | word :: rest =>
        match mark? word with
        | some mark => describe? { s with marks := (mark, false) :: s.marks } rest
        | none => .ok none
    else if lower = ("link" : Text) then
      match rest with
      | [] => .ok none
      | target :: rest => describe? { s with link := some target } rest
    else
      match mark? lower with
      | some mark => describe? { s with marks := (mark, true) :: s.marks } rest
      | none => do
        if ← isColor lower then describe? { s with color := some lower } rest else pure none

/-- Whether a mark is set, if the style says so. -/
def mark (s : Style) (name : Text) : Option Bool :=
  (s.marks.find? fun (known, _) => known = name).map Prod.snd

/-- The words for the marks of a style. -/
def markWords (s : Style) : List Text :=
  markNames.flatMap fun name =>
    match s.mark name with
    | none => []
    | some true => [name]
    | some false => ["not", name]

/-- The words for a style, in the order of its name. -/
def words (s : Style) : List Text :=
  let ground := match s.ground with
    | some color => (["on", color] : List Text)
    | none => []
  let link := match s.link with
    | some target => (["link", target] : List Text)
    | none => []
  s.markWords ++ s.color.toList ++ ground ++ link

/-- The name of a style. -/
def name (s : Style) : Text :=
  if s.words.isEmpty then "none" else Text.joinWith " " s.words

/-- The name of the style with a description.  What describes no style is its own name, in lower case
and without blanks around it. -/
def nameOf (description : Text) : Except ComponentFault Text :=
  if Text.trim description = ("none" : Text) then .ok "none"
  else do
    match ← describe? {} (Text.words description) with
    | some style => pure style.name
    | none => pure (Text.toLower (Text.trim description))

end Style
end DashboardSynthesis
