import DashboardSynthesis.Json.Basic

/-!
# Reading JSON

Reading works on what is left of the text.  A fault records how many code points were left where it
was noticed, so the reader carries no position; line, column and offset are worked out from the
whole text when the fault is shown (`Place.ofLeft`).

Accepted is JSON with three additions: `NaN`, `Infinity` and `-Infinity` are numbers, an escaped
surrogate that has no partner is kept, and a key may be repeated, the last value then standing in
the first one's place.  Two limits belong to the rules: an integer has at most 4300 digits
(`digitLimit`), and values are nested at most `nestingLimit` deep.

Values, items and members call one another, and each of these calls uses one unit of a supply that
`read` computes from the length of the text; between two calls at least one code point of two is
consumed, so the supply does not run out.
-/

namespace DashboardSynthesis
namespace Json

/-- The most digits that an integer may have, in reading and in writing. -/
def digitLimit : Nat := 4300

/-- The greatest depth of nested lists and objects that is read. -/
def nestingLimit : Nat := 990

/-- What is wrong with a text that is not JSON. -/
inductive Malformation where
  | noValue
  | noPropertyName
  | noColon
  | noComma
  | extraData
  | unterminatedString
  | controlCharacter
  | unknownEscape
  | badCodeUnit
  | byteOrderMark
  deriving DecidableEq, Repr

/-- Why a text is not read. -/
inductive Fault where
  /-- The text is not JSON; `left` code points were left where that was noticed. -/
  | malformed (what : Malformation) (left : Nat)
  /-- An integer has more digits than the limit allows. -/
  | tooManyDigits (digits : Nat)
  /-- Lists and objects are nested too deeply. -/
  | tooDeep
  deriving DecidableEq, Repr

/-- The fault `what`, noticed where `rest` is left. -/
def malformed {α : Type} (what : Malformation) (rest : Text) : Except Fault α :=
  .error (.malformed what rest.length)

/-- Space, tab, line feed and carriage return. -/
def isBlank (c : CodePoint) : Bool :=
  c = .scalar ' ' || c = .scalar '\t' || c = .scalar '\n' || c = .scalar '\r'

/-- The text behind the blanks at its start. -/
def skipBlanks (t : Text) : Text := t.dropWhile isBlank

/-! ## Strings -/

/-- A piece of a string between its quotes: a code point as it stands or after a short escape, or
the 16-bit unit of a `\u` escape. -/
inductive StringUnit where
  | plain (c : CodePoint)
  | unit (n : Nat)

/-- What a short escape stands for. -/
def shortEscape? : CodePoint → Option CodePoint
  | .scalar '"' => some (.scalar '"')
  | .scalar '\\' => some (.scalar '\\')
  | .scalar '/' => some (.scalar '/')
  | .scalar 'b' => some (.scalar '\x08')
  | .scalar 'f' => some (.scalar '\x0c')
  | .scalar 'n' => some (.scalar '\n')
  | .scalar 'r' => some (.scalar '\r')
  | .scalar 't' => some (.scalar '\t')
  | _ => none

/-- The 16-bit unit that four hexadecimal digits denote. -/
def unitOfDigits? (a b c d : CodePoint) : Option Nat := do
  let a ← a.hexDigit?
  let b ← b.hexDigit?
  let c ← c.hexDigit?
  let d ← d.hexDigit?
  pure (((a * 16 + b) * 16 + c) * 16 + d)

/-- The units up to the closing quote and what follows it.  `opening` is how much was left at the
opening quote, where a missing closing quote is reported.  An escape `\u` needs a code point behind
its four digits, so at the very end of the text it is bad whatever the digits are. -/
def stringUnits (opening : Nat) : Text → Except Fault (List StringUnit × Text)
  | [] => .error (.malformed .unterminatedString opening)
  | c :: rest =>
    if c = .scalar '"' then .ok ([], rest)
    else if c = .scalar '\\' then
      match rest with
      | [] => .error (.malformed .unterminatedString opening)
      | .scalar 'u' :: a :: b :: c :: d :: e :: rest' =>
        match unitOfDigits? a b c d with
        | none => malformed .badCodeUnit rest
        | some n => do
          let (units, after) ← stringUnits opening (e :: rest')
          pure (.unit n :: units, after)
      | e :: rest' =>
        if e = .scalar 'u' then malformed .badCodeUnit rest
        else match shortEscape? e with
          | none => malformed .unknownEscape (c :: rest)
          | some p => do
            let (units, after) ← stringUnits opening rest'
            pure (.plain p :: units, after)
    else if c.value < 0x20 then malformed .controlCharacter (c :: rest)
    else do
      let (units, after) ← stringUnits opening rest
      pure (.plain c :: units, after)

/-- The text of a list of units: a high unit and the low unit right behind it make one code point,
and any other unit stands for itself. -/
def joinUnits : List StringUnit → Text
  | [] => []
  | .plain c :: rest => c :: joinUnits rest
  | .unit high :: .unit low :: rest =>
    if 0xD800 ≤ high ∧ high < 0xDC00 ∧ 0xDC00 ≤ low ∧ low < 0xE000 then
      ((CodePoint.ofNat? (0x10000 + (high - 0xD800) * 0x400 + (low - 0xDC00))).toList)
        ++ joinUnits rest
    else (CodePoint.ofNat? high).toList ++ joinUnits (.unit low :: rest)
  | .unit n :: rest => (CodePoint.ofNat? n).toList ++ joinUnits rest

/-- A code point as it is read back from an escape; a surrogate is one unit. -/
def StringUnit.ofCodePoint : CodePoint → StringUnit
  | .scalar c => .plain (.scalar c)
  | .surrogate n => .unit (0xD800 + n.val)

/-- A text as it is read back where everything beyond ASCII was written in escapes: a surrogate and its
partner right behind it have become one code point. -/
def joined (t : Text) : Text := joinUnits (t.map StringUnit.ofCodePoint)

/-- Reads a string whose opening quote has been consumed. -/
def readString (afterQuote : Text) : Except Fault (Text × Text) := do
  let (units, after) ← stringUnits (afterQuote.length + 1) afterQuote
  pure (joinUnits units, after)

/-! ## Numbers and words -/

/-- The digits at the start of a text, and the rest. -/
def spanDigits (t : Text) : Text × Text := (t.takeWhile CodePoint.isDigit, t.dropWhile CodePoint.isDigit)

/-- The digits of a whole part and the rest: a single zero, or digits that do not start with one.
Without a digit there is no whole part. -/
def spanWhole : Text → Text × Text
  | [] => ([], [])
  | c :: rest => if c = .scalar '0' then ([c], rest) else spanDigits (c :: rest)

/-- The digits behind a point; a point without a digit behind it is not taken. -/
def spanFraction : Text → Option Text × Text
  | .scalar '.' :: rest =>
    let (digits, after) := spanDigits rest
    if digits.isEmpty then (none, .scalar '.' :: rest) else (some digits, after)
  | t => (none, t)

/-- The sign of an exponent, which may be a plus, and the rest. -/
def spanExponentSign : Text → Bool × Text
  | .scalar '-' :: rest => (true, rest)
  | .scalar '+' :: rest => (false, rest)
  | t => (false, t)

/-- The exponent behind `e` or `E`; without a digit it is not taken. -/
def spanExponent : Text → Option Int × Text
  | [] => (none, [])
  | e :: rest =>
    if e = .scalar 'e' ∨ e = .scalar 'E' then
      let (negative, unsigned) := spanExponentSign rest
      let (digits, after) := spanDigits unsigned
      if digits.isEmpty then (none, e :: rest)
      else
        let magnitude : Int := Text.digitsValue digits
        (some (if negative then -magnitude else magnitude), after)
    else (none, e :: rest)

/-- The sign of a number, and the rest. -/
def spanSign : Text → Bool × Text
  | .scalar '-' :: rest => (true, rest)
  | t => (false, t)

/-- The number with a sign, a whole part, and a fraction and an exponent if it has them. -/
def numberOf (negative : Bool) (whole : Text) : Option Text → Option Int → Except Fault Json
  | none, none =>
    if digitLimit < whole.length then .error (.tooManyDigits whole.length)
    else
      let magnitude : Int := Text.digitsValue whole
      .ok (.int (if negative then -magnitude else magnitude))
  | fraction, exponent =>
    let places := fraction.getD []
    .ok (.float (Binary64.ofDecimal negative (Text.digitsValue (whole ++ places))
      (exponent.getD 0 - places.length)))

/-- Reads a number. -/
def readNumber (t : Text) : Except Fault (Json × Text) :=
  let (negative, unsigned) := spanSign t
  let (whole, rest) := spanWhole unsigned
  if whole.isEmpty then malformed .noValue t
  else
    let (fraction, rest) := spanFraction rest
    let (exponent, rest) := spanExponent rest
    (numberOf negative whole fraction exponent).map (·, rest)

/-- The words that are values. -/
def words : List (Text × Json) :=
  [("null", .null), ("true", .bool true), ("false", .bool false), ("NaN", .float .nan),
   ("Infinity", .float (.infinite false)), ("-Infinity", .float (.infinite true))]

/-- Reads a word or a number. -/
def readAtom (t : Text) : Except Fault (Json × Text) :=
  match words.findSome? fun (word, value) => (Text.dropPrefix? word t).map (value, ·) with
  | some result => .ok result
  | none => readNumber t

/-! ## Values -/

mutual

/-- Reads a value at the start of a text, with `depth` levels of nesting left. -/
def readValue : (supply depth : Nat) → Text → Except Fault (Json × Text)
  | 0, _, _ => .error .tooDeep
  | supply + 1, depth, t =>
    match t with
    | .scalar '"' :: rest => do
      let (s, after) ← readString rest
      pure (.str s, after)
    | .scalar '[' :: rest =>
      match depth with
      | 0 => .error .tooDeep
      | depth + 1 =>
        match skipBlanks rest with
        | .scalar ']' :: after => .ok (.arr [], after)
        | inside => do
          let (items, after) ← readItems supply depth inside
          pure (.arr items, after)
    | .scalar '{' :: rest =>
      match depth with
      | 0 => .error .tooDeep
      | depth + 1 =>
        match skipBlanks rest with
        | .scalar '}' :: after => .ok (.obj [], after)
        | inside => do
          let (members, after) ← readMembers supply depth [] inside
          pure (.obj members, after)
    | _ => readAtom t

/-- Reads the items of a list up to its closing bracket. -/
def readItems : (supply depth : Nat) → Text → Except Fault (List Json × Text)
  | 0, _, _ => .error .tooDeep
  | supply + 1, depth, t => do
    let (item, rest) ← readValue supply depth t
    match skipBlanks rest with
    | .scalar ']' :: after => pure ([item], after)
    | .scalar ',' :: after => do
      let (items, after) ← readItems supply depth (skipBlanks after)
      pure (item :: items, after)
    | other => malformed .noComma other

/-- Reads the members of an object up to its closing brace; `before` are those read already. -/
def readMembers : (supply depth : Nat) → Members → Text → Except Fault (Members × Text)
  | 0, _, _, _ => .error .tooDeep
  | supply + 1, depth, before, t =>
    match t with
    | .scalar '"' :: rest => do
      let (key, rest) ← readString rest
      match skipBlanks rest with
      | .scalar ':' :: rest => do
        let (value, rest) ← readValue supply depth (skipBlanks rest)
        let members := before.set key value
        match skipBlanks rest with
        | .scalar '}' :: after => pure (members, after)
        | .scalar ',' :: after => readMembers supply depth members (skipBlanks after)
        | other => malformed .noComma other
      | other => malformed .noColon other
    | _ => malformed .noPropertyName t

end

/-- Reads a text that holds one value and blanks. -/
def read (t : Text) : Except Fault Json :=
  match t with
  | .scalar '\ufeff' :: _ => malformed .byteOrderMark t
  | _ => do
    let (value, rest) ← readValue (2 * t.length + 2) nestingLimit (skipBlanks t)
    match skipBlanks rest with
    | [] => pure value
    | other => malformed .extraData other

/-! ## Faults as text -/

/-- What is wrong, in words. -/
def Malformation.message : Malformation → Text
  | noValue => "Expecting value"
  | noPropertyName => "Expecting property name enclosed in double quotes"
  | noColon => "Expecting ':' delimiter"
  | noComma => "Expecting ',' delimiter"
  | extraData => "Extra data"
  | unterminatedString => "Unterminated string starting at"
  | controlCharacter => "Invalid control character at"
  | unknownEscape => "Invalid \\escape"
  | badCodeUnit => "Invalid \\uXXXX escape"
  | byteOrderMark => "Unexpected UTF-8 BOM (decode using utf-8-sig)"

/-- A place in a text: its line, its column there, and how many code points precede it. -/
structure Place where
  line : Nat
  column : Nat
  offset : Nat
  deriving DecidableEq, Repr

/-- The place in `t` behind which `left` code points are left. -/
def Place.ofLeft (t : Text) (left : Nat) : Place :=
  let before := t.take (t.length - left)
  ⟨before.count (.scalar '\n') + 1,
    (before.reverse.takeWhile (· ≠ .scalar '\n')).length + 1, before.length⟩

/-- A place in words. -/
def Place.message (p : Place) : Text :=
  ("line " : Text) ++ Text.ofNat p.line ++ (" column " : Text) ++ Text.ofNat p.column ++
    (" (char " : Text) ++ Text.ofNat p.offset ++ (")" : Text)

/-- How exceeding the digit limit is worded; in reading, the number of digits is known. -/
def digitLimitMessage (digits : Option Nat) : Text :=
  let count : Text :=
    match digits with
    | some n => (": value has " : Text) ++ Text.ofNat n ++ (" digits" : Text)
    | none => ""
  ("Exceeds the limit (" : Text) ++ Text.ofNat digitLimit ++
    (" digits) for integer string conversion" : Text) ++ count ++
    ("; use sys.set_int_max_str_digits() to increase the limit" : Text)

end Json

end DashboardSynthesis
