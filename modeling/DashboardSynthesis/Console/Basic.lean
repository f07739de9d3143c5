import DashboardSynthesis.Console.Frame
import DashboardSynthesis.Failure

/-!
# Consoles

What a message with markup looks like is for the console to say: how wide a line is, what the tags in
it mean, and which messages cannot be shown at all.  So a console is a variable of the program, and of
what it makes of a message one thing is relied on: what is shown of a message ends with a line break
(`Console.endsLine`).  A console without columns, on which nothing is ever shown, is none.

`Console.markup` is a console that runs.  It interprets messages as in `Markup`, and lays them out as
in `Layout`; its width, and what counts as something to be done on a click, are left open.
-/

namespace DashboardSynthesis

/-- What messages look like. -/
structure Console where
  /-- A message with markup. -/
  text : Text → Except Breakdown Text
  /-- A box around a message with markup. -/
  box : Text → Except Breakdown Text
  /-- A table, whose cells hold no markup. -/
  table : Layout.Table → Text
  /-- A message that is shown ends its line. -/
  endsLine : ∀ {message t}, text message = .ok t → ∃ body, t = body ++ ("\n" : Text)

namespace Layout

/-- Lines that are not none end with a break. -/
theorem exists_joinLines_eq {ls : List Text} (h : ls ≠ []) :
    ∃ body, joinLines ls = body ++ ("\n" : Text) := by
  refine ⟨joinLines ls.dropLast ++ ls.getLast h, ?_⟩
  calc joinLines ls
      = joinLines (ls.dropLast ++ [ls.getLast h]) := by rw [List.dropLast_concat_getLast]
    _ = joinLines ls.dropLast ++ ls.getLast h ++ ("\n" : Text) := by
        rw [joinLines, List.flatMap_append, List.flatMap_singleton, ← joinLines, List.append_assoc]

theorem fill_ne_nil (width : Nat) (line : Text) (ws : List Word) : fill width line ws ≠ [] := by
  induction ws generalizing line with
  | nil => simp [fill]
  | cons w ws ih =>
    rw [fill]
    split
    · exact ih _
    · split
      · simp
      · exact List.append_ne_nil_of_right_ne_nil _ (ih _)

theorem lines_ne_nil (width : Nat) (t : Text) : lines width t ≠ [] := by
  obtain ⟨line, rest, hlines⟩ := List.exists_cons_of_ne_nil
    (Text.splitOn_ne_nil (.scalar '\n') (t.filter fun c => !c.isDroppedOnConsole))
  rw [lines, givenLines, hlines, List.flatMap_cons]
  refine List.append_ne_nil_of_left_ne_nil ?_ _
  simpa [filledLines] using fill_ne_nil _ _ _

end Layout

namespace Markup

/-- Does this name something to be done, by letters, digits, underscores and points, with nothing in
parentheses behind it?  Such parameters can always be evaluated. -/
def namesAction (parameters : Text) : Bool :=
  let call := Text.trim parameters
  let name := if ("()" : Text).isSuffixOf call then call.take (call.length - 2) else call
  name.all fun
    | .scalar c => c.isAlphanum || c = '_' || c = '.'
    | .surrogate _ => false

end Markup

namespace Console

/-- What becomes of a line with markup, given how text is laid out and the width of a line of it. -/
def interpret (evaluates : Text → Bool) (width : Nat) (layOut : Text → List Text) (message : Text) :
    Except Breakdown Text :=
  let isDrawn (span : Markup.Span) := Layout.showsBetween width span.start span.stop
  match Markup.shown evaluates isDrawn message with
  | .ok t => .ok (Layout.joinLines (layOut t))
  | .error fault => .error (.markup fault)

/-- The console of a given width on which parameters of tags are evaluated if `evaluates` says so. -/
def markup (width : Nat) (evaluates : Text → Bool := Markup.namesAction) : Console where
  text := interpret evaluates width (Layout.lines width)
  box := interpret evaluates (width - 4) (Layout.box width)
  table := fun t => Layout.joinLines t.lines
  endsLine := by
    intro message t h
    rw [interpret] at h
    split at h
    · rw [← Except.ok.inj h]
      exact Layout.exists_joinLines_eq (Layout.lines_ne_nil width _)
    · exact absurd h (by simp)

end Console
end DashboardSynthesis
