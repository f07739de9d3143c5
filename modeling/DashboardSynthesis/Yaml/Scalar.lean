import DashboardSynthesis.Yaml.Token

/-!
# Scalars of YAML

A scalar is plain, quoted or a block.  Each function here reads one at the start of a text and gives
what it denotes together with what follows it.  Line breaks inside a plain or quoted scalar are
folded: a single one stands for a space, and of several ones the first is dropped.
-/

namespace DashboardSynthesis
namespace Yaml

/-! ## Quoted scalars -/

/-- What a short escape stands for. -/
def shortEscape? : CodePoint → Option Nat
  | .scalar '0' => some 0x00
  | .scalar 'a' => some 0x07
  | .scalar 'b' => some 0x08
  | .scalar 't' => some 0x09
  | .scalar '\t' => some 0x09
  | .scalar 'n' => some 0x0A
  | .scalar 'v' => some 0x0B
  | .scalar 'f' => some 0x0C
  | .scalar 'r' => some 0x0D
  | .scalar 'e' => some 0x1B
  | .scalar ' ' => some 0x20
  | .scalar '"' => some 0x22
  | .scalar '\\' => some 0x5C
  | .scalar '/' => some 0x2F
  | .scalar 'N' => some 0x85
  | .scalar '_' => some 0xA0
  | .scalar 'L' => some 0x2028
  | .scalar 'P' => some 0x2029
  | _ => none

/-- How many hexadecimal digits an escape takes. -/
def escapeDigits? : CodePoint → Option Nat
  | .scalar 'x' => some 2
  | .scalar 'u' => some 4
  | .scalar 'U' => some 8
  | _ => none

/-- The number that hexadecimal digits denote; other code points are not allowed. -/
def hexValue? (digits : Text) : Option Nat :=
  digits.foldlM (fun n c => c.hexDigit?.map (16 * n + ·)) 0

/-- The line breaks from the start of a line on, with blanks around them, and what follows them.  A
document marker at the start of one of these lines is not allowed.  Each line takes one unit of the
supply. -/
def foldedBreaks : (supply : Nat) → Text → Except Fault (Text × Text)
  | 0, t => .ok ([], t)
  | supply + 1, t =>
    if atAnyMarker t then malformed .unclosedQuote
    else
      match spanBreak (t.dropWhile isSpace) with
      | ([], rest) => .ok ([], rest)
      | (lineBreak, rest) => do
        let (breaks, after) ← foldedBreaks supply rest
        pure (lineBreak ++ breaks, after)

/-- What a line break stands for if further ones follow it. -/
def foldBreak (lineBreak breaks : Text) : Text :=
  if lineBreak ≠ ("\n" : Text) then lineBreak ++ breaks
  else if breaks.isEmpty then " "
  else breaks

/-- The body of a scalar in double quotes, behind the opening one. -/
def doubleQuoted : (supply : Nat) → Text → Except Fault (Text × Text)
  | 0, _ => malformed .unclosedQuote
  | _, [] => malformed .unclosedQuote
  | supply + 1, c :: rest =>
    if c = .scalar '"' then .ok ([], rest)
    else if c = .scalar '\\' then
      match rest with
      | [] => malformed .unknownEscape
      | e :: rest =>
        match shortEscape? e, escapeDigits? e with
        | some n, _ => do
          let (body, after) ← doubleQuoted supply rest
          pure ((CodePoint.ofNat? n).toList ++ body, after)
        | none, some count =>
          match hexValue? (rest.take count) with
          | none => malformed .unknownEscape
          | some n =>
            if rest.length < count then malformed .unknownEscape
            else
              match CodePoint.ofNat? n with
              | none => .error (.noCodePoint n)
              | some c => do
                let (body, after) ← doubleQuoted supply (rest.drop count)
                pure (c :: body, after)
        | none, none =>
          if isBreak e then do
            let (breaks, rest) ← foldedBreaks (e :: rest).length (spanBreak (e :: rest)).2
            let (body, after) ← doubleQuoted supply rest
            pure (breaks ++ body, after)
          else malformed .unknownEscape
    else if isSpace c || isBreak c then do
      let blanks := (c :: rest).takeWhile isSpace
      match spanBreak ((c :: rest).dropWhile isSpace) with
      | ([], rest) => do
        let (body, after) ← doubleQuoted supply rest
        pure (blanks ++ body, after)
      | (lineBreak, rest) => do
        let (breaks, rest) ← foldedBreaks (rest.length + 1) rest
        let (body, after) ← doubleQuoted supply rest
        pure (foldBreak lineBreak breaks ++ body, after)
    else do
      let (body, after) ← doubleQuoted supply rest
      pure (c :: body, after)

/-- The body of a scalar in single quotes, behind the opening one; a quote in it is doubled. -/
def singleQuoted : (supply : Nat) → Text → Except Fault (Text × Text)
  | 0, _ => malformed .unclosedQuote
  | _, [] => malformed .unclosedQuote
  | supply + 1, c :: rest =>
    if c = .scalar '\'' then
      match rest with
      | .scalar '\'' :: rest => do
        let (body, after) ← singleQuoted supply rest
        pure (c :: body, after)
      | rest => .ok ([], rest)
    else if isSpace c || isBreak c then do
      let blanks := (c :: rest).takeWhile isSpace
      match spanBreak ((c :: rest).dropWhile isSpace) with
      | ([], rest) => do
        let (body, after) ← singleQuoted supply rest
        pure (blanks ++ body, after)
      | (lineBreak, rest) => do
        let (breaks, rest) ← foldedBreaks (rest.length + 1) rest
        let (body, after) ← singleQuoted supply rest
        pure (foldBreak lineBreak breaks ++ body, after)
    else do
      let (body, after) ← singleQuoted supply rest
      pure (c :: body, after)

/-! ## Plain scalars -/

/-- Does a plain scalar stop before a character with the given one behind it? -/
def plainStops (inFlow : Bool) (c : CodePoint) (next : Option CodePoint) : Bool :=
  isSpace c || isBreak c ||
    (c = .scalar ':' && (isEnd next || (inFlow && startsWith ",[]\x7b\x7d" next))) ||
    (inFlow && isOneOf ",?[]\x7b\x7d" c)

/-- A run of characters of a plain scalar, and what follows it. -/
def spanPlain (inFlow : Bool) : Text → Text × Text
  | [] => ([], [])
  | c :: rest =>
    if plainStops inFlow c rest.head? then ([], c :: rest)
    else
      let (run, after) := spanPlain inFlow rest
      (c :: run, after)

/-- Spaces and line breaks from the start of a line on: the line breaks, the column that is reached,
and what follows.  A document marker at the start of a line ends this, and is told by no column. -/
def plainBreaks : (supply : Nat) → Text → Text × Option Nat × Text
  | 0, t => ([], some 0, t)
  | supply + 1, t =>
    if atAnyMarker t then ([], none, t)
    else
      let spaces := t.takeWhile (· = .scalar ' ')
      match spanBreak (t.dropWhile (· = .scalar ' ')) with
      | ([], rest) => ([], some spaces.length, rest)
      | (lineBreak, rest) =>
        let (breaks, column, after) := plainBreaks supply rest
        (lineBreak ++ breaks, column, after)

/-- A plain scalar as it is read: its text, whether it ended behind a line break, and what follows. -/
structure PlainScalar where
  text : Text
  brokeLine : Bool
  rest : Text

/-- A plain scalar whose further lines are indented by at least `indent`; `before` is what stands
between its next run of characters and the run before that.  A run takes one unit of the supply. -/
def plainScalar (inFlow : Bool) (indent : Int) :
    (supply : Nat) → (before : Text) → (brokeLine : Bool) → Text → PlainScalar
  | 0, _, brokeLine, t => ⟨[], brokeLine, t⟩
  | supply + 1, before, brokeLine, t =>
    match if t.head? = some (.scalar '#') then ([], t) else spanPlain inFlow t with
    | ([], _) => ⟨[], brokeLine, t⟩
    | (run, rest) =>
      let spaces := rest.takeWhile (· = .scalar ' ')
      match spanBreak (rest.dropWhile (· = .scalar ' ')) with
      | ([], after) =>
        if spaces.isEmpty then ⟨before ++ run, false, after⟩
        else
          let next := plainScalar inFlow indent supply spaces false after
          ⟨before ++ run ++ next.text, next.brokeLine, next.rest⟩
      | (lineBreak, after) =>
        match plainBreaks (after.length + 1) after with
        | (_, none, after) => ⟨before ++ run, true, after⟩
        | (breaks, some column, after) =>
          if !inFlow && column < indent then ⟨before ++ run, true, after⟩
          else
            let next := plainScalar inFlow indent supply (foldBreak lineBreak breaks) true after
            ⟨before ++ run ++ next.text, next.brokeLine, next.rest⟩

/-! ## Block scalars -/

/-- What happens to the line breaks at the end of a block. -/
inductive Chomping where
  | clip
  | strip
  | keep
  deriving DecidableEq, Repr

/-- The chomping that a character asks for. -/
def Chomping.ofIndicator? : CodePoint → Option Chomping
  | .scalar '+' => some .keep
  | .scalar '-' => some .strip
  | _ => none

/-- The indentation that a character asks for; zero is a digit, but none to ask for. -/
def increment? (c : CodePoint) : Option Nat := c.digit?

/-- The header of a block behind `|` or `>`: chomping, indentation, and the rest of the line. -/
def blockHeader (t : Text) : Except Fault (Chomping × Option Nat × Text) := do
  let (chomping, increment, rest) : Option Chomping × Option Nat × Text :=
    match t with
    | [] => (none, none, [])
    | c :: rest =>
      match Chomping.ofIndicator? c, increment? c with
      | some chomping, _ =>
        match rest with
        | d :: rest' =>
          match increment? d with
          | some n => (some chomping, some n, rest')
          | none => (some chomping, none, rest)
        | [] => (some chomping, none, [])
      | none, some n =>
        match rest with
        | d :: rest' =>
          match Chomping.ofIndicator? d with
          | some chomping => (some chomping, some n, rest')
          | none => (none, some n, rest)
        | [] => (none, some n, [])
      | none, none => (none, none, c :: rest)
  if increment = some 0 || !isSpaceOrBreak rest.head? then malformed .badBlockHeader
  else pure (chomping.getD .clip, increment, rest)

/-- What follows the rest of a line that may hold spaces and a comment. -/
def dropBlankLine (why : Malformation) (t : Text) : Except Fault Text :=
  let t := t.dropWhile (· = .scalar ' ')
  let t := if t.head? = some (.scalar '#') then t.dropWhile isInLine else t
  match t with
  | [] => .ok []
  | c :: rest => if isBreak c then .ok (spanBreak (c :: rest)).2 else malformed why

/-- The line breaks before a block's first line that is not empty, the greatest column reached on
these lines, the column that is reached, and what follows.  `column` is where the text starts. -/
def blockStart : (supply column : Nat) → Text → Text × Nat × Nat × Text
  | 0, column, t => ([], 0, column, t)
  | _, column, [] => ([], 0, column, [])
  | supply + 1, column, c :: rest =>
    if c = .scalar ' ' then
      let (breaks, widest, column', after) := blockStart supply (column + 1) rest
      (breaks, max (column + 1) widest, column', after)
    else if isBreak c then
      let (lineBreak, rest) := spanBreak (c :: rest)
      let (breaks, widest, column', after) := blockStart supply 0 rest
      (lineBreak ++ breaks, widest, column', after)
    else ([], 0, column, c :: rest)

/-- The spaces at the start of a text, at most `most` of them, as their number, and what follows. -/
def takeSpaces : (most : Nat) → Text → Nat × Text
  | most + 1, .scalar ' ' :: rest =>
    let (n, after) := takeSpaces most rest
    (n + 1, after)
  | _, t => (0, t)

/-- The line breaks from the start of a line on, the column that is reached after at most `indent`
spaces, and what follows. -/
def blockBreaks (indent : Nat) : (supply : Nat) → Text → Text × Nat × Text
  | 0, t => ([], 0, t)
  | supply + 1, t =>
    let (column, rest) := takeSpaces indent t
    match spanBreak rest with
    | ([], rest) => ([], column, rest)
    | (lineBreak, rest) =>
      let (breaks, column, after) := blockBreaks indent supply rest
      (lineBreak ++ breaks, column, after)

/-- The lines of a block from one that is not empty on, and what follows the block.  `breaks` are
the line breaks before the line. -/
def blockLines (folded : Bool) (indent : Nat) (chomping : Chomping) :
    (supply : Nat) → (breaks : Text) → Text → Text × Text
  | 0, _, t => ([], t)
  | supply + 1, breaks, t =>
    let line := t.takeWhile isInLine
    let (lineBreak, rest) := spanBreak (t.dropWhile isInLine)
    let (nextBreaks, column, rest) := blockBreaks indent (rest.length + 1) rest
    if column = indent && !rest.isEmpty then
      let flush (o : Option CodePoint) : Bool := !startsWith " \t" o
      let between : Text :=
        if folded && lineBreak = ("\n" : Text) && flush t.head? && flush rest.head? then
          if nextBreaks.isEmpty then " " else []
        else lineBreak
      let (text, after) := blockLines folded indent chomping supply nextBreaks rest
      (breaks ++ line ++ between ++ text, after)
    else
      let ending : Text :=
        match chomping with
        | .strip => []
        | .clip => lineBreak
        | .keep => lineBreak ++ nextBreaks
      (breaks ++ line ++ ending, rest)

/-- A block scalar behind `|` or `>`, inside something that is indented by `outer`. -/
def blockScalar (folded : Bool) (outer : Int) (t : Text) : Except Fault (Text × Text) := do
  let (chomping, increment, rest) ← blockHeader t
  let rest ← dropBlankLine .badBlockHeader rest
  let least := max (outer + 1).toNat 1
  let (breaks, indent, column, rest) : Text × Nat × Nat × Text :=
    match increment with
    | none =>
      let (breaks, widest, column, rest) := blockStart (rest.length + 1) 0 rest
      (breaks, max least widest, column, rest)
    | some n =>
      let indent := least + n - 1
      let (breaks, column, rest) := blockBreaks indent (rest.length + 1) rest
      (breaks, indent, column, rest)
  if column = indent && !rest.isEmpty then
    pure (blockLines folded indent chomping (rest.length + 1) breaks rest)
  else pure (if chomping = .keep then breaks else [], rest)

end Yaml
end DashboardSynthesis
