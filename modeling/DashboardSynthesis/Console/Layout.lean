import DashboardSynthesis.Text.Blank
import DashboardSynthesis.Text.Width

/-!
# Laying out text on the console

Text is laid out in lines of a given width.  Some control codes are dropped, tabs are filled up with
blanks, and what does not fit on a line is broken: before a word if the word fits on a line of its own,
else inside the word.  Blanks that stick out at the end of a line are cut off; in that the code points are
counted and not the columns, so what is wider than one column may have to be cut once more.
-/

namespace DashboardSynthesis

/-- Is this a control code that the console drops: the bell, the backspace, the vertical tab, the form
feed or the carriage return? -/
def CodePoint.isDroppedOnConsole (c : CodePoint) : Bool := [7, 8, 11, 12, 13].contains c.value

namespace Layout

/-- So many blanks. -/
def blanks (n : Nat) : Text := List.replicate n (.scalar ' ')

/-- A text that starts at a column, with blanks up to the next multiple of eight for each tab. -/
def expandTabs (column : Nat) : Text → Text
  | [] => []
  | c :: rest =>
    if c = .scalar '\t' then
      blanks (8 - column % 8) ++ expandTabs (column + (8 - column % 8)) rest
    else c :: expandTabs (column + c.width) rest

/-- A word: its body, and the blanks behind it.  The body of the first word of a line starts with the
blanks before it. -/
structure Word where
  body : Text
  gap : Text
  deriving DecidableEq, Repr

/-- A word as text. -/
def Word.text (w : Word) : Text := w.body ++ w.gap

/-- The words of a text, after an empty body if the text starts with a blank. -/
def wordsFrom : Text → List Word
  | [] => []
  | c :: rest =>
    match wordsFrom rest with
    | [] => if c.isBlank then [⟨[], [c]⟩] else [⟨[c], []⟩]
    | w :: words =>
      if !c.isBlank then ⟨c :: w.body, w.gap⟩ :: words
      else if w.body.isEmpty then ⟨[], c :: w.gap⟩ :: words
      else ⟨[], [c]⟩ :: w :: words

/-- The words of a line. -/
def words (line : Text) : List Word :=
  match wordsFrom line with
  | ⟨[], start⟩ :: w :: rest => ⟨start ++ w.body, w.gap⟩ :: rest
  | words => words

/-- A text behind the line begun, cut wherever a line is full. -/
def chop (width : Nat) (line : Text) : Text → List Text
  | [] => [line]
  | c :: rest =>
    if width < line.width + c.width then line :: chop width [c] rest
    else chop width (line ++ [c]) rest

/-- The lines that words fill, behind the line begun. -/
def fill (width : Nat) (line : Text) : List Word → List Text
  | [] => [line]
  | w :: rest =>
    if line.width + w.body.width ≤ width then fill width (line ++ w.text) rest
    else if w.body.width ≤ width then line :: fill width w.text rest
    else
      -- nothing is begun where nothing stands before the word
      let parts := (line :: chop width [] w.text).dropWhile List.isEmpty
      parts.dropLast ++ fill width (parts.getLast?.getD []) rest

/-- A line without the blanks at its end, as far as it has more than a number of code points. -/
def trimEnd (width : Nat) (line : Text) : Text :=
  let blanks := (line.reverse.takeWhile CodePoint.isBlank).length
  line.take (line.length - min blanks (line.length - width))

/-- The beginning of a line that fills a number of columns, searched for by halving the part in which it
ends.  Where only a half of something fits, there is a blank.  If something without a width stands where
the line is cut, it depends on the halves whether it is kept. -/
def cut (room : Nat) (line : Text) (start stop : Nat) : Text :=
  let middle := (start + stop) / 2
  let before : Text := line.take (middle + 1)
  if before.width = room + 1 && before.getLast?.any fun c => c.width = 2 then
    before.dropLast ++ blanks 1
  else if before.width = room || stop ≤ start + 1 then before
  else if room < before.width then cut room line start middle
  else cut room line middle stop
  termination_by stop - start
  decreasing_by all_goals simp_all; omega

/-- A line without what is beyond a number of columns. -/
def crop (room : Nat) (line : Text) : Text :=
  if line.width ≤ room then line else if room = 0 then [] else cut room line 0 line.length

/-- A line that has been filled, without what sticks out. -/
def finishLine (width : Nat) (line : Text) : Text := crop width (trimEnd width line)

/-- A text as it is broken by itself, without the codes that the console drops. -/
def givenLines (t : Text) : List Text :=
  Text.splitOn (.scalar '\n') (t.filter fun c => !c.isDroppedOnConsole)

/-- The lines that are filled with a line of a text. -/
def filledLines (width : Nat) (line : Text) : List Text := fill width [] (words (expandTabs 0 line))

/-- The lines of a text on a console of a given width. -/
def lines (width : Nat) (t : Text) : List Text :=
  (givenLines t).flatMap fun line => (filledLines width line).map (finishLine width)

/-! ## Stretches of a text

What becomes of a part of a text, between two places in it, is asked for the looks of that part: where
nothing of it is left, its looks do not matter.  Codes that the console drops do not count in places. -/

/-- Is something between two places left when filled lines are finished? -/
def isLeft (width start stop : Nat) : List Text → Bool
  | [] => false
  | line :: rest =>
    start < min stop (finishLine width line).length ||
      isLeft width (start - line.length) (stop - line.length) rest

/-- Is something between two places found on the lines of a text? -/
def isFound (width start stop : Nat) : List Text → Bool
  | [] => false
  | line :: rest =>
    let place (n : Nat) := (expandTabs 0 (line.take n)).length
    isLeft width (place start) (place stop) (filledLines width line) ||
      isFound width (start - (line.length + 1)) (stop - (line.length + 1)) rest

/-- Does a place stay a place of the text?  It does if the text is not cut up, and not cut off in front of
the place. -/
def staysPlace (width place : Nat) (t : Text) : Bool :=
  match givenLines t with
  | [line] =>
    match filledLines width line with
    | [whole] =>
      let left := (finishLine width whole).length
      !line.contains (.scalar '\t') && (left = whole.length || place < left)
    | _ => false
  | _ => false

/-- Do the looks of what is between two places of a text matter?  Those of nothing do as long as the place
stays. -/
def showsBetween (width start stop : Nat) (t : Text) : Bool :=
  if start = stop then staysPlace width start t else isFound width start stop (givenLines t)

/-- A text with blanks behind it up to a width. -/
def padEnd (width : Nat) (t : Text) : Text := t ++ blanks (width - t.width)

/-- A text in the middle of a width; an odd blank stands behind it. -/
def center (width : Nat) (t : Text) : Text := padEnd width (blanks ((width - t.width) / 2) ++ t)

end Layout
end DashboardSynthesis
