import DashboardSynthesis.Text.Literal

/-!
# Tokens of YAML

The characters that may occur in a YAML text, their classes, and the tokens into which the text is
cut.  A text is cut in two steps: `Yaml.Lexer` finds the tokens, and `Yaml.Node` is composed of them.
What can go wrong in either is a `Yaml.Fault`.
-/

namespace DashboardSynthesis
namespace Yaml

/-- What is wrong with a text that is not YAML. -/
inductive Malformation where
  | forbiddenCharacter
  | unknownToken
  | misplacedEntry
  | missingColon
  | badDirective
  | badName
  | badTag
  | badBlockHeader
  | unclosedQuote
  | unknownEscape
  | noContent
  | unclosedCollection
  | undefinedHandle
  | undefinedAlias
  | repeatedAnchor
  | severalDocuments
  /-- A tag, given by its full name, means nothing here. -/
  | undefinedTag (name : Text)
  | wrongKind
  | unhashableKey
  | badMerge
  deriving DecidableEq, Repr

/-- What is wrong, in words. -/
def Malformation.message : Malformation → Text
  | forbiddenCharacter => "special characters are not allowed"
  | unknownToken => "found character that cannot start any token"
  | misplacedEntry => "an entry, a key or a value is not allowed here"
  | missingColon => "could not find expected ':'"
  | badDirective => "found a bad directive"
  | badName => "expected alphabetic or numeric character"
  | badTag => "found a bad tag"
  | badBlockHeader => "expected chomping or indentation indicators"
  | unclosedQuote => "found unexpected end of a quoted scalar"
  | unknownEscape => "found unknown escape character"
  | noContent => "expected the node content"
  | unclosedCollection => "expected the end of a collection"
  | undefinedHandle => "found undefined tag handle"
  | undefinedAlias => "found undefined alias"
  | repeatedAnchor => "found duplicate anchor"
  | severalDocuments => "expected a single document in the stream"
  | undefinedTag name =>
    ("could not determine a constructor for the tag " : Text) ++ Text.literal name
  | wrongKind => "found a node of another kind than its tag expects"
  | unhashableKey => "found unhashable key"
  | badMerge => "expected a mapping or list of mappings for merging"

/-- Why the text of a scalar does not fit its tag. -/
inductive ScalarDefect where
  | noFlag (text : Text)
  | noDigits
  | noInteger (base : Nat) (text : Text)
  | tooManyDigits (digits : Nat)
  | noFloat (text : Text)
  | noTimestamp
  | yearOutOfRange (year : Nat)
  | monthOutOfRange
  | dayOutOfRange
  | hourOutOfRange
  | minuteOutOfRange
  | secondOutOfRange
  /-- The zone, given in minutes, is a day or more away. -/
  | zoneOutOfRange (minutes : Int)
  deriving DecidableEq, Repr

/-- Why a text has no value. -/
inductive Fault where
  | malformed (what : Malformation)
  /-- Collections are nested too deeply. -/
  | tooDeep
  /-- An escape names a number that is no code point. -/
  | noCodePoint (number : Nat)
  /-- A scalar does not fit the tag that it has. -/
  | badScalar (why : ScalarDefect)
  deriving DecidableEq, Repr

/-- Fails since the text is malformed. -/
def malformed {α : Type} (what : Malformation) : Except Fault α := .error (.malformed what)

/-! ## Characters -/

/-- Is this a line break? -/
def isBreak (c : CodePoint) : Bool :=
  c = .scalar '\n' || c = .scalar '\r' || c.value = 0x85 || c.value = 0x2028 || c.value = 0x2029

/-- Is this a space or a tab? -/
def isSpace (c : CodePoint) : Bool := c = .scalar ' ' || c = .scalar '\t'

/-- Is this no line break? -/
def isInLine (c : CodePoint) : Bool := !isBreak c

/-- Does an indicator end here: is there nothing more, or a space, a tab or a line break? -/
def isEnd : Option CodePoint → Bool
  | none => true
  | some c => isSpace c || isBreak c

/-- Is there nothing more on this line but what starts here: the end, a space or a line break? -/
def isSpaceOrBreak : Option CodePoint → Bool
  | none => true
  | some c => c = .scalar ' ' || isBreak c

/-- Is this one of the characters of a string? -/
def isOneOf (chars : String) (c : CodePoint) : Bool := (Text.ofString chars).contains c

/-- Does something start with one of the characters of a string? -/
def startsWith (chars : String) : Option CodePoint → Bool
  | none => false
  | some c => isOneOf chars c

/-- May the character occur in a YAML text? -/
def isAllowed (c : CodePoint) : Bool :=
  let n := c.value
  n = 0x09 || n = 0x0A || n = 0x0D || (0x20 ≤ n && n ≤ 0x7E) || n = 0x85 ||
    (0xA0 ≤ n && n ≤ 0xD7FF) || (0xE000 ≤ n && n ≤ 0xFFFD) || 0x10000 ≤ n

/-- Is this a character of a name: a letter or digit in ASCII, `-` or `_`? -/
def isNameCharacter : CodePoint → Bool
  | .scalar c => c.isAlphanum || c = '-' || c = '_'
  | .surrogate _ => false

/-- The line break at the start of a text, as it counts in a scalar, and what follows it; without a
line break the first part is empty. -/
def spanBreak : Text → Text × Text
  | .scalar '\r' :: .scalar '\n' :: rest => ("\n", rest)
  | c :: rest =>
    if c = .scalar '\n' || c = .scalar '\r' || c.value = 0x85 then ("\n", rest)
    else if isBreak c then ([c], rest)
    else ([], c :: rest)
  | [] => ([], [])

/-- Does a text at the start of a line start with a document marker? -/
def atMarker (marker : String) (t : Text) : Bool :=
  match Text.dropPrefix? marker t with
  | some rest => isEnd rest.head?
  | none => false

/-- Does a text at the start of a line start with the marker of a start or end of a document? -/
def atAnyMarker (t : Text) : Bool := atMarker "---" t || atMarker "..." t

/-! ## Tokens -/

/-- The tokens of YAML.  The end of the text has no token of its own. -/
inductive Token where
  /-- A directive: a version with its first number, a tag handle with its prefix, or another one. -/
  | versionDirective (major : Nat)
  | tagDirective (handle tagStart : Text)
  | otherDirective
  | documentStart
  | documentEnd
  | blockSequenceStart
  | blockMappingStart
  | blockEnd
  | flowSequenceStart
  | flowSequenceEnd
  | flowMappingStart
  | flowMappingEnd
  | blockEntry
  | flowEntry
  | key
  | value
  | alias (name : Text)
  | anchor (name : Text)
  | tag (handle : Option Text) (rest : Text)
  /-- A scalar; `plain` says that it is neither quoted nor a block. -/
  | scalar (text : Text) (plain : Bool)
  deriving DecidableEq, Repr

end Yaml
end DashboardSynthesis
