import DashboardSynthesis.Yaml.Scalar

/-!
# Cutting YAML into tokens

The lexer goes through the text once.  Two things make it more than a list of patterns.

Collections in block style have no brackets: a column that is greater than the current indentation
starts one, and a smaller one ends all that are indented more.  The lexer keeps the indentations of
the open ones and writes tokens for these starts and ends.

That something is a key is only known when its `:` is found.  So wherever a key may start the lexer
leaves a mark among the tokens and remembers it as a possible key of the current flow level; a `:`
decides about it.  In the end `Piece.expand` puts the tokens for a decided mark in its place.  A
possible key has to end on the line where it starts, and after at most 1024 characters.

Whoever composes the tokens asks for them one by one, and what is wrong further on in the text is not
noticed before a token from there is needed.  So a fault is not the whole outcome: in front of it stand
the tokens that can be had without coming upon it (`Lexer.available`).
-/

namespace DashboardSynthesis
namespace Yaml

/-- What the lexer writes: a token, or a mark where a key may turn out to start. -/
inductive Piece where
  | token (t : Token)
  | mark (number : Nat)
  deriving DecidableEq, Repr

/-- A place where a key may start. -/
structure PossibleKey where
  /-- The number of the mark that is left there. -/
  mark : Nat
  /-- Does something stand there that can be nothing but a key? -/
  required : Bool
  index : Nat
  line : Nat
  column : Nat
  deriving DecidableEq, Repr

/-- The state of the lexer. -/
structure Lexer where
  /-- What is left of the text. -/
  rest : Text
  index : Nat := 0
  line : Nat := 0
  column : Nat := 0
  /-- How many brackets are open. -/
  flowLevel : Nat := 0
  /-- The indentation of the innermost open block collection. -/
  indent : Int := -1
  /-- The indentations around it. -/
  outerIndents : List Int := []
  /-- May a key start here? -/
  keyAllowed : Bool := true
  /-- The possible keys, at most one for each flow level. -/
  possibleKeys : List (Nat × PossibleKey) := []
  /-- What has been written, last piece first. -/
  pieces : List Piece := []
  /-- The marks that turned out to be keys, and whether a mapping starts with them. -/
  decided : List (Nat × Bool) := []
  /-- How many marks have been left. -/
  marks : Nat := 0

namespace Lexer

/-! ## Positions -/

/-- The state behind one code point with the given text after it. -/
def step (l : Lexer) (c : CodePoint) (after : Text) : Lexer :=
  if isBreak c && !(c = .scalar '\r' && after.head? = some (.scalar '\n')) then
    { l with rest := after, index := l.index + 1, line := l.line + 1, column := 0 }
  else if c.value = 0xFEFF then { l with rest := after, index := l.index + 1 }
  else { l with rest := after, index := l.index + 1, column := l.column + 1 }

/-- The state behind a number of code points. -/
def advance (l : Lexer) : Nat → Lexer
  | 0 => l
  | n + 1 =>
    match l.rest with
    | [] => l
    | c :: after => (l.step c after).advance n

/-- The state where the given text is left. -/
def moveTo (l : Lexer) (rest : Text) : Lexer := l.advance (l.rest.length - rest.length)

/-- The state with a token written. -/
def write (l : Lexer) (t : Token) : Lexer := { l with pieces := .token t :: l.pieces }

/-- The state where the given text is left, with a token written. -/
def writeAt (l : Lexer) (t : Token) (rest : Text) : Lexer := (l.moveTo rest).write t

/-! ## Indentation -/

/-- Ends the block collections that are indented by more than `column`.  The list of the
indentations around the innermost one bounds the recursion. -/
def unwindTo (column : Int) : (outer : List Int) → Lexer → Lexer
  | [], l => l
  | next :: outer, l =>
    if column < l.indent then
      unwindTo column outer { l.write .blockEnd with indent := next, outerIndents := outer }
    else l

/-- Ends the block collections that are indented by more than `column`, unless a bracket is open. -/
def unwind (l : Lexer) (column : Int) : Lexer :=
  if l.flowLevel = 0 then unwindTo column l.outerIndents l else l

/-- Is the indentation smaller than a column? -/
def isIndentedLess (l : Lexer) (column : Nat) : Bool := l.indent < column

/-- The state with the column as indentation of a further block collection. -/
def indentTo (l : Lexer) (column : Nat) : Lexer :=
  { l with indent := column, outerIndents := l.indent :: l.outerIndents }

/-- Starts a block collection at the current column, with a token for it, if that is indented more. -/
def openBlock (l : Lexer) (t : Token) : Lexer :=
  if l.isIndentedLess l.column then (l.indentTo l.column).write t else l

/-! ## Possible keys -/

/-- The possible key of the current flow level. -/
def possibleKey? (l : Lexer) : Option PossibleKey :=
  (l.possibleKeys.find? fun (level, _) => level = l.flowLevel).map (·.2)

/-- The state without the possible key of the current flow level. -/
def withoutKey (l : Lexer) : Lexer :=
  { l with possibleKeys := l.possibleKeys.filter fun (level, _) => level ≠ l.flowLevel }

/-- Gives up the possible key of the current flow level. -/
def dropKey (l : Lexer) : Except Fault Lexer :=
  match l.possibleKey? with
  | none => .ok l
  | some key => if key.required then malformed .missingColon else .ok l.withoutKey

/-- The length up to which a key is looked for. -/
def keyLimit : Nat := 1024

/-- Is it too late for the `:` of a possible key? -/
def isStale (l : Lexer) (key : PossibleKey) : Bool :=
  key.line ≠ l.line || keyLimit < l.index - key.index

/-- Gives up the possible keys for whose `:` it is too late. -/
def dropStaleKeys (l : Lexer) : Except Fault Lexer :=
  if l.possibleKeys.any fun (_, key) => l.isStale key && key.required then malformed .missingColon
  else .ok { l with possibleKeys := l.possibleKeys.filter fun (_, key) => !l.isStale key }

/-- Leaves a mark for a key that may start here, if one may. -/
def saveKey (l : Lexer) : Except Fault Lexer :=
  if l.keyAllowed then do
    let required := l.flowLevel = 0 && l.indent = l.column
    let l ← l.dropKey
    let key : PossibleKey := ⟨l.marks, required, l.index, l.line, l.column⟩
    pure
      { l with
        possibleKeys := l.possibleKeys ++ [(l.flowLevel, key)]
        pieces := .mark l.marks :: l.pieces
        marks := l.marks + 1 }
  else .ok l

/-! ## Blanks, comments and directives -/

/-- The state at the next token: behind spaces, comments and line breaks.  A line break allows a key
unless a bracket is open. -/
def skipBlanks : (supply : Nat) → Lexer → Lexer
  | 0, l => l
  | supply + 1, l =>
    let t := l.rest.dropWhile (· = .scalar ' ')
    let t := if t.head? = some (.scalar '#') then t.dropWhile isInLine else t
    match spanBreak t with
    | ([], _) => l.moveTo t
    | (_, after) =>
      let l := l.moveTo after
      skipBlanks supply (if l.flowLevel = 0 then { l with keyAllowed := true } else l)

/-- The name at the start of a text and what follows it. -/
def spanName (t : Text) : Except Fault (Text × Text) :=
  match t.span isNameCharacter with
  | ([], _) => malformed .badName
  | (name, rest) => .ok (name, rest)

/-- A number in decimal digits and what follows it. -/
def spanNumber (t : Text) : Except Fault (Nat × Text) :=
  match t.span CodePoint.isDigit with
  | ([], _) => malformed .badDirective
  | (digits, rest) => .ok (Text.digitsValue digits, rest)

/-- A handle of tags: `!`, or a name between two of them. -/
def spanHandle (t : Text) : Except Fault (Text × Text) :=
  match t with
  | .scalar '!' :: rest =>
    if rest.head? = some (.scalar ' ') then .ok ("!", rest)
    else
      match rest.span isNameCharacter with
      | (name, .scalar '!' :: after) => .ok (("!" : Text) ++ name ++ ("!" : Text), after)
      | _ => malformed .badTag
  | _ => malformed .badTag

/-- The bytes of a run of escapes `%` with two hexadecimal digits, and what follows it. -/
def spanEscapes : Text → Except Fault (List UInt8 × Text)
  | .scalar '%' :: a :: b :: rest =>
    match hexValue? [a, b] with
    | some n => do
      let (bytes, after) ← spanEscapes rest
      pure (UInt8.ofNat n :: bytes, after)
    | none => malformed .badTag
  | .scalar '%' :: _ => malformed .badTag
  | rest => .ok ([], rest)

/-- Is this one of the characters of a tag besides letters, digits and escapes? -/
def isTagCharacter (c : CodePoint) : Bool := isNameCharacter c || isOneOf ";/?:@&=+$,.!~*'()[]" c

/-- The characters of a tag, with escapes resolved, and what follows them.  A run of escapes has to
be UTF-8. -/
def spanTagText : (supply : Nat) → Text → Except Fault (Text × Text)
  | 0, t => .ok ([], t)
  | _, [] => .ok ([], [])
  | supply + 1, c :: rest =>
    if c = .scalar '%' then do
      let (bytes, rest) ← spanEscapes (c :: rest)
      match String.fromUTF8? ⟨bytes.toArray⟩ with
      | none => malformed .badTag
      | some s =>
        let (text, after) ← spanTagText supply rest
        pure (Text.ofString s ++ text, after)
    else if isTagCharacter c then do
      let (text, after) ← spanTagText supply rest
      pure (c :: text, after)
    else .ok ([], c :: rest)

/-- The characters of a tag, of which there is at least one. -/
def readTagText (t : Text) : Except Fault (Text × Text) :=
  if t.head?.any fun c => isTagCharacter c || c = .scalar '%' then spanTagText t.length t
  else malformed .badTag

/-- A directive behind `%`. -/
def readDirective (t : Text) : Except Fault (Token × Text) := do
  let (name, rest) ← spanName t
  if !isSpaceOrBreak rest.head? then malformed .badDirective
  else
    let (token, rest) ←
      if name = ("YAML" : Text) then do
        let (major, rest) ← spanNumber (rest.dropWhile (· = .scalar ' '))
        match rest with
        | .scalar '.' :: rest =>
          let (_, rest) ← spanNumber rest
          if isSpaceOrBreak rest.head? then pure (Token.versionDirective major, rest)
          else malformed .badDirective
        | _ => malformed .badDirective
      else if name = ("TAG" : Text) then do
        let (handle, rest) ← spanHandle (rest.dropWhile (· = .scalar ' '))
        if rest.head? = some (.scalar ' ') then
          let (tagStart, rest) ← readTagText (rest.dropWhile (· = .scalar ' '))
          if isSpaceOrBreak rest.head? then pure (Token.tagDirective handle tagStart, rest)
          else malformed .badDirective
        else malformed .badDirective
      else pure (Token.otherDirective, rest.dropWhile isInLine)
    pure (token, ← dropBlankLine .badDirective rest)

/-! ## Names and tags -/

/-- The name of an anchor or alias behind its indicator. -/
def readAnchor (t : Text) : Except Fault (Text × Text) := do
  let (name, rest) ← spanName t
  if isEnd rest.head? || startsWith "?:,]\x7d%@`" rest.head? then pure (name, rest)
  else malformed .badName

/-- A tag behind `!`. -/
def readTag (t : Text) : Except Fault (Token × Text) := do
  let (token, rest) ←
    match t with
    | .scalar '<' :: rest =>
      match ← readTagText rest with
      | (text, .scalar '>' :: after) => pure (Token.tag none text, after)
      | _ => malformed .badTag
    | _ =>
      if isEnd t.head? then pure (Token.tag none "!", t)
      else if (t.takeWhile fun c => !isSpaceOrBreak (some c)).contains (.scalar '!') then do
        let (handle, rest) ← spanHandle (.scalar '!' :: t)
        let (text, after) ← readTagText rest
        pure (Token.tag (some handle) text, after)
      else do
        let (text, after) ← readTagText t
        pure (Token.tag (some "!") text, after)
  if isSpaceOrBreak rest.head? then pure (token, rest) else malformed .badTag

/-! ## Tokens one by one -/

/-- Ends all block collections and gives up the possible key, as at the end of a document. -/
def endBlocks (l : Lexer) : Except Fault Lexer := do
  let l ← (l.unwind (-1)).dropKey
  pure { l with keyAllowed := false }

/-- An opening bracket, which may itself start a key. -/
def openFlow (l : Lexer) (t : Token) (rest : Text) : Except Fault Lexer := do
  let l ← l.saveKey
  pure ({ l with flowLevel := l.flowLevel + 1, keyAllowed := true }.writeAt t rest)

/-- A closing bracket. -/
def closeFlow (l : Lexer) (t : Token) (rest : Text) : Except Fault Lexer := do
  let l ← l.dropKey
  pure ({ l with flowLevel := l.flowLevel - 1, keyAllowed := false }.writeAt t rest)

/-- A comma between brackets. -/
def flowEntry (l : Lexer) (rest : Text) : Except Fault Lexer := do
  let l ← l.dropKey
  pure ({ l with keyAllowed := true }.writeAt .flowEntry rest)

/-- Starts a block collection where an entry or a key stands; between brackets there is none. -/
def enterBlock (l : Lexer) (t : Token) : Except Fault Lexer :=
  if l.flowLevel = 0 then
    if l.keyAllowed then .ok (l.openBlock t) else malformed .misplacedEntry
  else .ok l

/-- The `-` of an entry. -/
def blockEntry (l : Lexer) (rest : Text) : Except Fault Lexer := do
  let l ← l.enterBlock .blockSequenceStart
  let l ← { l with keyAllowed := true }.dropKey
  pure (l.writeAt .blockEntry rest)

/-- The `?` of a key. -/
def explicitKey (l : Lexer) (rest : Text) : Except Fault Lexer := do
  let l ← l.enterBlock .blockMappingStart
  let l ← { l with keyAllowed := l.flowLevel = 0 }.dropKey
  pure (l.writeAt .key rest)

/-- The `:` of a value.  It decides about the possible key, if there is one. -/
def value (l : Lexer) (rest : Text) : Except Fault Lexer :=
  match l.possibleKey? with
  | some key =>
    let l := l.withoutKey
    let starts := l.flowLevel = 0 && l.isIndentedLess key.column
    let l := if starts then l.indentTo key.column else l
    .ok ({ l with decided := (key.mark, starts) :: l.decided, keyAllowed := false }.writeAt .value
      rest)
  | none => do
    let l ← l.enterBlock .blockMappingStart
    let l ← { l with keyAllowed := l.flowLevel = 0 }.dropKey
    pure (l.writeAt .value rest)

/-- A token that may start a key, and behind which none starts. -/
def simple (l : Lexer) (t : Token) (rest : Text) : Except Fault Lexer := do
  let l ← l.saveKey
  pure ({ l with keyAllowed := false }.writeAt t rest)

/-- A block scalar, behind which a key may start. -/
def block (l : Lexer) (folded : Bool) (rest : Text) : Except Fault Lexer := do
  let l ← { l with keyAllowed := true }.dropKey
  let (text, after) ← blockScalar folded l.indent rest
  pure (l.writeAt (.scalar text false) after)

/-- A plain scalar; behind a line break in it a key may start. -/
def plain (l : Lexer) : Except Fault Lexer := do
  let l ← l.saveKey
  let s := plainScalar (0 < l.flowLevel) (l.indent + 1) (l.rest.length + 1) [] false l.rest
  pure ({ l with keyAllowed := s.brokeLine }.writeAt (.scalar s.text true) s.rest)

/-- May a plain scalar start with a character with the given one behind it? -/
def startsPlain (inFlow : Bool) (c : CodePoint) (next : Option CodePoint) : Bool :=
  !(isEnd (some c) || isOneOf "-?:,[]\x7b\x7d#&*!|>'\"%@`" c) ||
    (!isEnd next && (c = .scalar '-' || (!inFlow && isOneOf "?:" c)))

/-- Reads the token that starts with the given character. -/
def fetch (l : Lexer) (c : CodePoint) (rest : Text) : Except Fault Lexer :=
  let next := rest.head?
  let inFlow : Bool := 0 < l.flowLevel
  if c = .scalar '%' && l.column = 0 then do
    let l ← l.endBlocks
    let (t, after) ← readDirective rest
    pure (l.writeAt t after)
  else if l.column = 0 && atMarker "---" (c :: rest) then do
    pure ((← l.endBlocks).writeAt .documentStart (rest.drop 2))
  else if l.column = 0 && atMarker "..." (c :: rest) then do
    pure ((← l.endBlocks).writeAt .documentEnd (rest.drop 2))
  else
    match c with
    | .scalar '[' => l.openFlow .flowSequenceStart rest
    | .scalar '{' => l.openFlow .flowMappingStart rest
    | .scalar ']' => l.closeFlow .flowSequenceEnd rest
    | .scalar '}' => l.closeFlow .flowMappingEnd rest
    | .scalar ',' => l.flowEntry rest
    | .scalar '*' => do
      let (name, after) ← readAnchor rest
      l.simple (.alias name) after
    | .scalar '&' => do
      let (name, after) ← readAnchor rest
      l.simple (.anchor name) after
    | .scalar '!' => do
      let (t, after) ← readTag rest
      l.simple t after
    | .scalar '\'' => do
      let (text, after) ← singleQuoted (rest.length + 1) rest
      l.simple (.scalar text false) after
    | .scalar '"' => do
      let (text, after) ← doubleQuoted (rest.length + 1) rest
      l.simple (.scalar text false) after
    | c =>
      if c = .scalar '-' && isEnd next then l.blockEntry rest
      else if c = .scalar '?' && (inFlow || isEnd next) then l.explicitKey rest
      else if c = .scalar ':' && (inFlow || isEnd next) then l.value rest
      else if c = .scalar '|' && !inFlow then l.block false rest
      else if c = .scalar '>' && !inFlow then l.block true rest
      else if startsPlain inFlow c next then l.plain
      else malformed .unknownToken

/-- Reads the next token, or ends at the end of the text. -/
def next (l : Lexer) : Except Fault Lexer := do
  let l ← (skipBlanks (l.rest.length + 1) l).dropStaleKeys
  let l := l.unwind l.column
  match l.rest with
  | [] => l.endBlocks
  | c :: rest => l.fetch c rest

/-- Reads tokens up to the end of the text, or up to a fault; each takes one unit of the supply. -/
def run : (supply : Nat) → Lexer → Lexer × Option Fault
  | 0, l => (l, none)
  | supply + 1, l =>
    match l.next with
    | .error fault => (l, some fault)
    | .ok after => if l.rest.isEmpty then (after, none) else run supply after

end Lexer

/-- The tokens for a piece, under the decisions about marks. -/
def Piece.expand (decided : List (Nat × Bool)) : Piece → List Token
  | token t => [t]
  | mark n =>
    match decided.find? fun (m, _) => m = n with
    | none => []
    | some (_, true) => [.blockMappingStart, .key]
    | some (_, false) => [.key]

namespace Lexer

/-- The pieces that have been written, the first one in front. -/
def written (l : Lexer) : List Piece := l.pieces.reverse

/-- Does a piece mark a key about which nothing has been decided, and may yet be? -/
def isPending (l : Lexer) : Piece → Bool
  | .token _ => false
  | .mark n => l.possibleKeys.any fun (_, key) => key.mark = n && (key.required || !l.isStale key)

/-- The tokens that can be had without reading on. -/
def available (l : Lexer) : List Token :=
  (l.written.takeWhile fun piece => !l.isPending piece).flatMap (Piece.expand l.decided)

end Lexer

/-- The text without a byte order mark at its start. -/
def dropByteOrderMark : Text → Text
  | .scalar '\ufeff' :: rest => rest
  | t => t

/-- The tokens of a text.  If there is a fault, they are those in front of it. -/
def tokens (t : Text) : List Token × Option Fault :=
  if !t.all isAllowed then ([], some (.malformed .forbiddenCharacter))
  else
    match Lexer.run (t.length + 1) { rest := dropByteOrderMark t } with
    | (l, none) => (l.written.flatMap (Piece.expand l.decided), none)
    | (l, some fault) => (l.available, some fault)

end Yaml
end DashboardSynthesis
