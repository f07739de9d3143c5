import DashboardSynthesis.Yaml.Token

/-!
# Tags of YAML

A tag says what a node stands for.  A plain scalar without a tag gets one by its text: `Tag.ofPlain`
goes through the patterns for flags, numbers, dates and the other words that do not stand for
themselves.
-/

namespace DashboardSynthesis
namespace Yaml

/-- What a node stands for. -/
inductive Tag where
  | null
  | bool
  | int
  | float
  | binary
  | timestamp
  | orderedMap
  | pairs
  | set
  | str
  | seq
  | map
  /-- The key `<<`, whose value is merged into the mapping around it. -/
  | merge
  /-- The word `=`. -/
  | default
  /-- A tag that means nothing here, by its full name. -/
  | unknown (name : Text)
  deriving DecidableEq, Repr

namespace Tag

/-- What the tags of YAML itself start with. -/
def standardStart : Text := "tag:yaml.org,2002:"

/-- The names of tags behind that start. -/
def names : List (Text × Tag) :=
  [("null", null), ("bool", bool), ("int", int), ("float", float), ("binary", binary),
   ("timestamp", timestamp), ("omap", orderedMap), ("pairs", pairs), ("set", set), ("str", str),
   ("seq", seq), ("map", map), ("merge", merge), ("value", default)]

/-- The tag with a full name. -/
def ofName (name : Text) : Tag :=
  match Text.dropPrefix? standardStart name with
  | none => unknown name
  | some rest => ((names.find? fun (known, _) => known = rest).map (·.2)).getD (unknown name)

/-! ## Patterns -/

/-- The words for flags. -/
def flagWords : List Text :=
  ["yes", "Yes", "YES", "no", "No", "NO", "true", "True", "TRUE", "false", "False", "FALSE", "on",
   "On", "ON", "off", "Off", "OFF"]

/-- The words for nothing. -/
def nullWords : List Text := ["~", "null", "Null", "NULL", ""]

/-- Is this a decimal digit or an underscore? -/
def isDigitOrGap (c : CodePoint) : Bool := c.isDigit || c = .scalar '_'

/-- The text behind a sign, if there is one. -/
def dropSign : Text → Text
  | .scalar '-' :: rest => rest
  | .scalar '+' :: rest => rest
  | t => t

/-- Is the text not empty, with all of it in a class? -/
def allOf (p : CodePoint → Bool) (t : Text) : Bool := !t.isEmpty && t.all p

/-- Does a number in base 60 continue like this: parts of one or two digits below 60, each behind a
colon?  There is at least one. -/
def isSixtieths (t : Text) : Bool :=
  match Text.splitOn (.scalar ':') t with
  | [] :: part :: parts =>
    (part :: parts).all fun part =>
      match part with
      | [d] => d.isDigit
      | [d, e] => d.digit?.any (· ≤ 5) && e.isDigit
      | _ => false
  | _ => false

/-- Is this a decimal numeral, perhaps with gaps, that does not start with a gap? -/
def isDecimal (t : Text) : Bool := t.head?.any CodePoint.isDigit && t.all isDigitOrGap

/-- Is this an integer? -/
def isInt (t : Text) : Bool :=
  match dropSign t with
  | .scalar '0' :: .scalar 'b' :: digits => allOf (isOneOf "01_") digits
  | .scalar '0' :: .scalar 'x' :: digits =>
    allOf (fun c => c.hexDigit?.isSome || c = .scalar '_') digits
  | .scalar '0' :: digits => digits.all (isOneOf "01234567_")
  | unsigned =>
    let (whole, rest) := unsigned.span isDigitOrGap
    isDecimal whole && (rest.isEmpty || isSixtieths rest)

/-- Is this nothing, or an exponent with a sign? -/
def isExponent : Text → Bool
  | [] => true
  | e :: s :: digits => isOneOf "eE" e && isOneOf "+-" s && allOf CodePoint.isDigit digits
  | _ => false

/-- Is this a floating-point number? -/
def isFloat (t : Text) : Bool :=
  let unsigned := dropSign t
  if ([".inf", ".Inf", ".INF"] : List Text).contains unsigned then true
  else if ([".nan", ".NaN", ".NAN"] : List Text).contains t then true
  else
    match t with
    | .scalar '.' :: rest =>
      let (places, rest) := rest.span isDigitOrGap
      isDecimal places && isExponent rest
    | _ =>
      let (whole, rest) := unsigned.span isDigitOrGap
      if !isDecimal whole then false
      else
        match rest.span (· ≠ .scalar '.') with
        | ([], _ :: places) => isExponent (places.dropWhile isDigitOrGap)
        | (sixtieths, _ :: places) => isSixtieths sixtieths && places.all isDigitOrGap
        | (_, []) => false

/-- Digits, of which there are at least `least` and at most `most`, and what follows them. -/
def spanDigits? (least most : Nat) (t : Text) : Option (Text × Text) :=
  let digits := (t.take most).takeWhile CodePoint.isDigit
  if least ≤ digits.length then some (digits, t.drop digits.length) else none

/-- What follows a character at the start of a text. -/
def dropChar? (char : Char) : Text → Option Text
  | c :: rest => if c = .scalar char then some rest else none
  | [] => none

end Tag

/-! ## Dates and times -/

/-- The parts of a date, and of a time on it if one is given, as they are written. -/
structure TimestampText where
  year : Text
  month : Text
  day : Text
  time : Option (Text × Text × Text × Option Text) := none
  /-- The zone: nothing, or its sign, hours and minutes; `Z` has none of these. -/
  zone : Option (Option (Char × Text × Option Text)) := none
  deriving DecidableEq, Repr

namespace TimestampText

open Tag (spanDigits? dropChar? isExponent)

/-- A zone behind a time, up to the end of the text. -/
def readZone? (t : Text) : Option (Option (Option (Char × Text × Option Text))) :=
  if t.isEmpty then some none
  else
    let signed (sign : Char) (rest : Text) : Option (Option (Option (Char × Text × Option Text))) := do
      let (hours, rest) ← spanDigits? 1 2 rest
      match rest with
      | [] => some (some (some (sign, hours, none)))
      | _ =>
        let (minutes, rest) ← spanDigits? 2 2 (← dropChar? ':' rest)
        if rest.isEmpty then some (some (some (sign, hours, some minutes))) else none
    match t.dropWhile isSpace with
    | [.scalar 'Z'] => some (some none)
    | .scalar '+' :: rest => signed '+' rest
    | .scalar '-' :: rest => signed '-' rest
    | _ => none

/-- The parts of a date and, if more is given than the date, of the time on it. -/
def read? (t : Text) : Option TimestampText := do
  let (year, rest) ← spanDigits? 4 4 t
  let (month, rest) ← spanDigits? 1 2 (← dropChar? '-' rest)
  let (day, rest) ← spanDigits? 1 2 (← dropChar? '-' rest)
  match rest with
  | [] => some { year, month, day }
  | c :: rest =>
    let rest ←
      if isOneOf "Tt" c then some rest
      else if isSpace c then some (rest.dropWhile isSpace)
      else none
    let (hour, rest) ← spanDigits? 1 2 rest
    let (minute, rest) ← spanDigits? 2 2 (← dropChar? ':' rest)
    let (second, rest) ← spanDigits? 2 2 (← dropChar? ':' rest)
    let (fraction, rest) : Option Text × Text :=
      match rest with
      | .scalar '.' :: rest =>
        (some (rest.takeWhile CodePoint.isDigit), rest.dropWhile CodePoint.isDigit)
      | rest => (none, rest)
    let zone ← readZone? rest
    some { year, month, day, time := some (hour, minute, second, fraction), zone }

/-- Is a plain scalar with these parts a date or time?  A date alone needs two digits for the month
and for the day. -/
def isImplicit (p : TimestampText) : Bool :=
  p.time.isSome || (p.month.length = 2 && p.day.length = 2)

end TimestampText

/-- The tag of a plain scalar by its text. -/
def Tag.ofPlain (t : Text) : Tag :=
  if nullWords.contains t then null
  else if flagWords.contains t then bool
  else if isInt t then int
  else if isFloat t then float
  else if (TimestampText.read? t).any TimestampText.isImplicit then timestamp
  else if t = ("<<" : Text) then merge
  else if t = ("=" : Text) then default
  else str

end Yaml
end DashboardSynthesis
