import DashboardSynthesis.Console.EmojiName
import DashboardSynthesis.Text.Blank
import DashboardSynthesis.Text.LetterCase

/-!
# Emoji by name

A name between colons, in either case, stands for an emoji.  Behind the name the form of the emoji may
be asked for, as a picture or as a letter.  A name has no blanks, and one that is not known stays, with
its colons.  Names are looked for from left to right, and each colon belongs to one name at most.
-/

namespace DashboardSynthesis
namespace Emoji

/-- How an emoji is to be shown. -/
inductive Form where
  | unspecified
  | picture
  | letter
  deriving DecidableEq, Repr

/-- What stands behind a name to ask for a form. -/
def Form.suffix : Form → Text
  | unspecified => []
  | picture => "-emoji"
  | letter => "-text"

/-- What stands behind an emoji in a form. -/
def Form.selector : Form → Text
  | unspecified => []
  | picture => "\ufe0f"
  | letter => "\ufe0e"

/-- A name between colons. -/
structure Code where
  name : Text
  form : Form
  deriving DecidableEq, Repr

namespace Code

/-- The end of a code, which stands behind its name, with the form and what follows. -/
def ending? (t : Text) : Option (Form × Text) :=
  [Form.picture, .letter, .unspecified].findSome? fun form =>
    (Text.dropPrefix? (form.suffix ++ [.scalar ':']) t).map fun after => (form, after)

/-- The code that `t` starts with, its first colon apart, and what stands behind it.  The name is as
short as it can be. -/
def start? : (t : Text) → Option (Code × Text)
  | [] => none
  | c :: rest =>
    match ending? (c :: rest) with
    | some (form, after) => some (⟨[], form⟩, after)
    | none =>
      if c.isBlank then none
      else (start? rest).map fun (code, after) => ({ code with name := c :: code.name }, after)

theorem length_le_of_ending? {t after : Text} {form : Form} (h : ending? t = some (form, after)) :
    after.length ≤ t.length := by
  obtain ⟨form', -, hform⟩ := List.exists_of_findSome?_eq_some h
  obtain ⟨rest, hrest, heq⟩ := Option.map_eq_some_iff.1 hform
  cases heq
  exact Text.length_le_of_dropPrefix? hrest

theorem length_le_of_start? {t after : Text} {code : Code} (h : start? t = some (code, after)) :
    after.length ≤ t.length := by
  induction t generalizing code with
  | nil => simp [start?] at h
  | cons c rest ih =>
    simp only [start?] at h
    split at h
    · next form after' hend =>
      cases h
      exact length_le_of_ending? hend
    · split at h
      · simp at h
      · obtain ⟨⟨code', after'⟩, hfound, heq⟩ := Option.map_eq_some_iff.1 h
        cases heq
        exact Nat.le_succ_of_le (ih hfound)

/-- A code as it is written. -/
def written (code : Code) : Text :=
  .scalar ':' :: code.name ++ code.form.suffix ++ [.scalar ':']

/-- What a code shows: its emoji, or the code itself if the name is not known. -/
def shown (code : Code) : Text :=
  match ofName? (Text.toLower code.name) with
  | some emoji => emoji ++ code.form.selector
  | none => code.written

end Code

/-- A text with its names replaced by emoji. -/
def shown : Text → Text
  | [] => []
  | c :: rest =>
    if c = .scalar ':' then
      match h : Code.start? rest with
      | some (code, after) =>
        have : after.length ≤ rest.length := Code.length_le_of_start? h
        code.shown ++ shown after
      | none => c :: shown rest
    else c :: shown rest
  termination_by t => t.length
  decreasing_by all_goals simp only [List.length_cons]; omega

end Emoji
end DashboardSynthesis
