import DashboardSynthesis.Console.Emoji
import DashboardSynthesis.Console.Layout
import DashboardSynthesis.Console.Style

/-!
# Markup in console lines

A console line may hold tags in brackets, which say how the text behind them looks.  Where there are
no colors a tag disappears and only the text stays.  A bracket starts a tag if a small letter or one
of `#`, `/` and `@` follows and the next bracket closes it; every other bracket is text.

## Backslashes

Before a tag two backslashes stand for one, and one that is left over makes the tag text.  Before a
bracket that starts no tag the last backslash is dropped.  Elsewhere a backslash stands for itself.

## Closing

A tag `/name` closes the innermost open tag of that name, `/` alone closes the innermost one.  The
names are those of styles, so a tag can be closed by another description of the same style.  A tag
that closes nothing is a fault; tags may stay open.

## Parameters

Behind an equals sign a tag has parameters.  Those of a tag whose name starts with `@` are what is to
be done when somebody clicks there: they are evaluated when the tag is closed, and it is a fault if
they cannot be.  What can be evaluated is for somebody else to say, so it is a variable here.  The
parameters of other tags belong to the description of the look, which is read once more when the
line is drawn, if there is something to be drawn in that look.

## Emoji

In text between tags the names of emoji are replaced.  A name does not reach across a tag, or across
backslashes that stand before a tag.
-/

namespace DashboardSynthesis
namespace Markup

/-- Why a line is not shown. -/
inductive Fault where
  /-- A tag closes nothing. -/
  | unmatched (name : Text)
  /-- The parameters of a tag cannot be evaluated. -/
  | badParameters (parameters : Text)
  /-- A component of a color is not read. -/
  | component (why : ComponentFault)
  deriving DecidableEq, Repr

/-- A part of a console line. -/
inductive Piece where
  | plain (t : Text)
  | opening (name : Text) (parameters : Option Text)
  /-- A tag that closes another one: that of a name, or the innermost one if the name is empty. -/
  | closing (name : Text)
  deriving DecidableEq, Repr

/-- What a tag does.  Its name ends at an equals sign. -/
def Piece.ofTag (tag : Text) : Piece :=
  let isName (c : CodePoint) : Bool := c ≠ .scalar '='
  match tag.takeWhile isName with
  | .scalar '/' :: name => .closing (Text.trim name)
  | name => .opening name (tag.dropWhile isName).tail?

/-! ## Finding tags -/

/-- May a tag start with this code point? -/
def startsTag : CodePoint → Bool
  | .scalar c => ('a' ≤ c && c ≤ 'z') || c = '#' || c = '/' || c = '@'
  | .surrogate _ => false

/-- Is this a bracket? -/
def isBracket (c : CodePoint) : Bool := c = .scalar '[' || c = .scalar ']'

/-- The tag that an opening bracket starts, given what stands behind the bracket, and what follows
the tag. -/
def tag? : Text → Option (Text × Text)
  | [] => none
  | c :: rest =>
    if startsTag c then
      match rest.dropWhile fun c => !isBracket c with
      | .scalar ']' :: after => some (c :: rest.takeWhile fun c => !isBracket c, after)
      | _ => none
    else none

theorem length_lt_of_tag? {t tag after : Text} (h : tag? t = some (tag, after)) :
    after.length < t.length := by
  cases t with
  | nil => simp [tag?] at h
  | cons c rest =>
    simp only [tag?] at h
    split at h
    · split at h
      · next rest' hr =>
        have hlen := (List.dropWhile_suffix (l := rest) fun c => !isBracket c).length_le
        rw [hr] at hlen
        simp only [Option.some.injEq, Prod.mk.injEq] at h
        obtain ⟨-, rfl⟩ := h
        simp only [List.length_cons] at hlen ⊢
        omega
      · simp at h
    · simp at h

/-- So many backslashes. -/
def backslashes (n : Nat) : Text := List.replicate n (.scalar '\\')

/-- What a line of which `slashes` backslashes have been passed shows before its next tag, with the
parts of the line from there on. -/
def scan (slashes : Nat) : Text → Text × List Piece
  | [] => (backslashes slashes, [])
  | c :: rest =>
    if c = .scalar '\\' then scan (slashes + 1) rest
    else if c = .scalar '[' then
      match h : tag? rest with
      | some (tag, after) =>
        have : after.length < rest.length := length_lt_of_tag? h
        let piece := if slashes % 2 = 0 then Piece.ofTag tag else .plain (c :: tag ++ [.scalar ']'])
        let (next, pieces) := scan 0 after
        ([], .plain (backslashes (slashes / 2)) :: piece :: .plain next :: pieces)
      | none =>
        let (next, pieces) := scan 0 rest
        (backslashes (slashes - 1) ++ c :: next, pieces)
    else
      let (next, pieces) := scan 0 rest
      (backslashes slashes ++ c :: next, pieces)
  termination_by t => t.length
  decreasing_by all_goals simp only [List.length_cons]; omega

/-- The parts of a line. -/
def pieces (line : Text) : List Piece :=
  let (next, pieces) := scan 0 line
  .plain next :: pieces

/-! ## Closing tags -/

/-- The name of the style with a description. -/
def styleName (description : Text) : Except Fault Text :=
  match Style.nameOf description with
  | .ok name => .ok name
  | .error why => .error (.component why)

/-- An open tag, under the name of its style, and the place where it starts. -/
structure OpenTag where
  name : Text
  parameters : Option Text
  start : Nat
  deriving DecidableEq, Repr

/-- How text is to look from one place to another. -/
structure Span where
  start : Nat
  stop : Nat
  look : Text
  deriving DecidableEq, Repr

namespace OpenTag

/-- Is this something to be done on a click? -/
def isAction (tag : OpenTag) : Bool := tag.name.head? = some (.scalar '@')

/-- What is in the tag, up to a place. -/
def span (tag : OpenTag) (stop : Nat) : Span where
  start := tag.start
  stop
  look := match tag.parameters with
    | none => tag.name
    | some parameters => tag.name ++ .scalar ' ' :: parameters

end OpenTag

/-- The tag that is closed by a name, and the ones that stay open; the innermost is in front. -/
def close (opened : List OpenTag) (name : Text) : Except Fault (OpenTag × List OpenTag) := do
  let isClosed : OpenTag → Bool ←
    if name.isEmpty then pure fun _ => true
    else do
      let closed ← styleName name
      pure fun tag => tag.name = closed
  match opened.find? isClosed with
  | some tag => .ok (tag, opened.eraseP isClosed)
  | none => .error (.unmatched name)

variable (evaluates : Text → Bool)

/-- What a tag that is closed at a place says about looks. -/
def closedSpans (tag : OpenTag) (place : Nat) : Except Fault (List Span) :=
  if tag.isAction then
    match tag.parameters.filter fun parameters => !parameters.isEmpty && !evaluates parameters with
    | some parameters => .error (.badParameters parameters)
    | none => .ok []
  else .ok [tag.span place]

/-- How far a text goes on the console. -/
def extent (t : Text) : Nat := t.countP fun c => !c.isDroppedOnConsole

/-- The text of parts of a line behind a place and the tags in `opened`, the innermost in front, with what
is said about its looks. -/
def resolve (place : Nat) (opened : List OpenTag) : List Piece → Except Fault (Text × List Span)
  | [] => .ok ([], opened.map (OpenTag.span · place))
  | .plain t :: rest => do
    let shown := Emoji.shown t
    let (text, spans) ← resolve (place + extent shown) opened rest
    pure (shown ++ text, spans)
  | .opening name parameters :: rest => do
    let name ← styleName name
    resolve place (⟨name, parameters, place⟩ :: opened) rest
  | .closing name :: rest => do
    let (tag, opened) ← close opened name
    let closed ← closedSpans evaluates tag place
    let (text, spans) ← resolve place opened rest
    pure (text, closed ++ spans)

/-- The text that a line with markup shows.  Looks are read where there is something to be drawn in them. -/
def shown (isDrawn : Span → Text → Bool) (line : Text) : Except Fault Text := do
  let (text, spans) ← resolve evaluates 0 [] (pieces line)
  (spans.filter (isDrawn · text)).forM fun span => discard (styleName span.look)
  pure text

end Markup
end DashboardSynthesis
