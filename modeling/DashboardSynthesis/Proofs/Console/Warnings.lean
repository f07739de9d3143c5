import DashboardSynthesis.Proofs.Console.Lines
import DashboardSynthesis.Proofs.Decision.Treatment

/-!
# Warnings on the console

A warning about a decision carries texts that come from a file: the name of the decision, its identifier
and its type.  They are put into a line with markup as they are.  A console that reads markup shows the
warning, on a line of its own and unchanged, if there is no tag in it, no emoji is named, there are no
control codes, and it fits on the line (`text_of_isPlainMessage`); and if there is no colon in it, only then
(`isPlainMessage_of_isInfix`).
-/

namespace DashboardSynthesis

open Layout (IsLine isControl)

/-- A message that a line of a width shows as it is, behind a sign of two columns. -/
structure IsPlainMessage (width : Nat) (message : Text) : Prop where
  /-- No bracket starts a tag, and none stands behind a backslash. -/
  tags : Markup.isUntagged false message = true
  /-- No known name of an emoji stands between colons. -/
  emoji : Emoji.shown message = message
  /-- There are no line breaks, no tabs, and none of the codes that the console drops. -/
  controls : ∀ c ∈ message, ¬ isControl c = true
  /-- There is room for the message behind the sign. -/
  width : 2 + message.width ≤ width

variable {width : Nat} {evaluates : Text → Bool} {message line : Text}

theorem width_sign_append (message : Text) :
    Text.width (("⚠ " : Text) ++ message) = 2 + message.width := by
  have hsign : Text.width ("⚠ " : Text) = 2 := by decide +kernel
  rw [Text.width_append, hsign]

theorem not_isControl_sign_append (h : ∀ c ∈ message, ¬ isControl c = true) :
    ∀ c ∈ ("⚠ " : Text) ++ message, ¬ isControl c = true := by
  have hsign : ∀ c ∈ ("⚠ " : Text), ¬ isControl c = true := by decide +kernel
  intro c hc
  obtain hc | hc := List.mem_append.1 hc
  · exact hsign c hc
  · exact h c hc

theorem getLast?_sign_append {last : CodePoint} (hlast : message.getLast? = some last) :
    (("⚠ " : Text) ++ message).getLast? = some last := by
  rw [List.getLast?_append, hlast]
  rfl

/-- What a console that reads markup makes of a line. -/
theorem Console.exists_shown_of_text {t : Text} (h : (markup width evaluates).text message = .ok t) :
    ∃ isDrawn s, Markup.shown evaluates isDrawn message = .ok s ∧
      t = Layout.joinLines (Layout.lines width s) := by
  replace h : interpret evaluates width (Layout.lines width) message = .ok t := h
  rw [interpret] at h
  split at h
  · next s hs => exact ⟨_, s, hs, (Except.ok.inj h).symm⟩
  · exact absurd h (by simp)

/-- **A plain warning is shown as it is, on a line of its own.** -/
theorem text_of_isPlainMessage {last : CodePoint} (hlast : message.getLast? = some last)
    (hblank : ¬ last.isBlank = true) (hslash : last ≠ .scalar '\\') (h : IsPlainMessage width message) :
    (Console.markup width evaluates).text (warningLine message) =
      .ok (("⚠ " : Text) ++ message ++ ("\n" : Text)) := by
  have hend : message.getLast? ≠ some (.scalar '\\') := by
    rw [hlast]
    exact fun heq => hslash (Option.some_inj.1 heq)
  have hshown := fun isDrawn => Markup.shown_warningLine evaluates isDrawn hend h.tags h.emoji
  have hfits : Text.width (("⚠ " : Text) ++ message) ≤ width := by
    rw [width_sign_append]
    exact h.width
  have hlines : Layout.lines width (("⚠ " : Text) ++ message) = [("⚠ " : Text) ++ message] := by
    refine Layout.lines_eq_of_width_le (not_isControl_sign_append h.controls) (fun c hc => ?_) hfits
    rw [getLast?_sign_append hlast] at hc
    rwa [← Option.some_inj.1 hc]
  show Console.interpret _ _ _ _ = _
  rw [Console.interpret, hshown]
  simp [hlines, Layout.joinLines]

theorem isLine_of_controls (h : ∀ c ∈ message, ¬ isControl c = true) :
    IsLine (("⚠ " : Text) ++ message ++ ("\n" : Text)) := by
  refine ⟨("⚠ " : Text) ++ message, fun hbreak => ?_, rfl⟩
  exact not_isControl_sign_append h _ hbreak (by decide)

/-- What stands on a line stands in front of the break at its end, if it does not end with a break. -/
theorem isInfix_of_isInfix_concat {body : Text} {last : CodePoint} (hlast : message.getLast? = some last)
    (hne : last ≠ .scalar '\n') (h : message <:+: body ++ ("\n" : Text)) : message <:+: body := by
  obtain ⟨front, behind, heq⟩ := h
  obtain rfl | ⟨behind, c, rfl⟩ := List.eq_nil_or_concat' behind
  · -- then the message ends with the break
    have hend := congrArg List.getLast? heq
    rw [List.append_nil, List.getLast?_append, hlast] at hend
    have hbreak : (body ++ ("\n" : Text)).getLast? = some (.scalar '\n') := List.getLast?_concat
    rw [hbreak] at hend
    exact absurd (Option.some_inj.1 hend) hne
  · have hbody : front ++ message ++ behind ++ [c] = body ++ [.scalar '\n'] := by
      rw [List.append_assoc (front ++ message)]
      exact heq
    exact ⟨front, behind, (List.append_inj' hbody rfl).1⟩

/-- **A warning without colons that is shown unchanged, on a line of its own, is plain.** -/
theorem isPlainMessage_of_isInfix (hroom : 0 < width) {last : CodePoint}
    (hlast : message.getLast? = some last) (hblank : ¬ last.isBlank = true) (hslash : last ≠ .scalar '\\')
    (hbreak : last ≠ .scalar '\n') (hcolon : .scalar ':' ∉ message)
    (h : (Console.markup width evaluates).text (warningLine message) = .ok line) (hline : IsLine line)
    (hwithin : message <:+: line) : IsPlainMessage width message := by
  obtain ⟨isDrawn, t, ht, rfl⟩ := Console.exists_shown_of_text h
  have hend : message.getLast? ≠ some (.scalar '\\') := by
    rw [hlast]
    exact fun heq => hslash (Option.some_inj.1 heq)
  -- no mark is missing, so the text that is laid out is the message behind the sign
  have hmarks : marks message ≤ marks t := by
    calc marks message
        ≤ marks (Layout.joinLines (Layout.lines width t)) := hwithin.sublist.countP_le
      _ = marks (Layout.lines width t).flatten := Layout.marks_joinLines _
      _ ≤ marks t := Layout.marks_flatten_lines_le _ _
  obtain ⟨htags, rfl⟩ | hless := Markup.shown_warningLine_eq_or hend hcolon ht
  case inr => exact absurd hless (Nat.not_lt.2 hmarks)
  have hbreaks : ∀ line ∈ Layout.lines width (("⚠ " : Text) ++ message), .scalar '\n' ∉ line :=
    fun line hline hmem => Layout.not_isControl_of_mem_lines hline hmem (by decide)
  obtain ⟨body, hlines, hbody⟩ := Layout.exists_of_count_eq_one hbreaks hline.count
  rw [hbody] at hwithin
  have honLine : message <:+: body := isInfix_of_isInfix_concat hlast hbreak hwithin
  have hcontrols : ∀ c ∈ message, ¬ isControl c = true := by
    intro c hc
    have hmem : body ∈ Layout.lines width (("⚠ " : Text) ++ message) := by
      rw [hlines]
      exact List.mem_cons_self
    exact Layout.not_isControl_of_mem_lines hmem (honLine.mem hc)
  have hend' : ∀ c ∈ (("⚠ " : Text) ++ message).getLast?, ¬ c.isBlank = true := by
    intro c hc
    rw [getLast?_sign_append hlast] at hc
    rwa [← Option.some_inj.1 hc]
  have hsign : CodePoint.width (.scalar '⚠') = 1 := by decide +kernel
  have hwidth := (Layout.eq_and_width_le_of_lines_eq (by decide) (by decide) (hsign.trans_le hroom)
    (not_isControl_sign_append hcontrols) hend' hlines).2
  exact ⟨htags, Emoji.shown_of_notMem hcolon, hcontrols, (width_sign_append message).symm.trans_le hwidth⟩

/-! ## Warnings about decisions -/

namespace IsSkipWarning

variable {d : Decision}

theorem getLast? (h : IsSkipWarning d message) : message.getLast? = some (.scalar '.') := by
  have hend : ∀ t s : Text, s.getLast? = some (.scalar '.') → (t ++ s).getLast? = some (.scalar '.') := by
    intro t s hs
    rw [List.getLast?_append, hs]
    rfl
  rw [IsSkipWarning] at h
  cases htype : d.localType? <;> rw [htype] at h <;> rw [← Option.some_inj.1 h] <;>
    exact hend _ _ (by decide)

/-- The line for a plain warning about a decision. -/
theorem text_eq (h : IsSkipWarning d message) (hplain : IsPlainMessage width message) :
    (Console.markup width evaluates).text (warningLine message) =
      .ok (("⚠ " : Text) ++ message ++ ("\n" : Text)) :=
  text_of_isPlainMessage h.getLast? (by decide) (by decide) hplain

theorem isPlainMessage (h : IsSkipWarning d message) (hroom : 0 < width) (hcolon : .scalar ':' ∉ message)
    (htext : (Console.markup width evaluates).text (warningLine message) = .ok line) (hline : IsLine line)
    (hwithin : message <:+: line) : IsPlainMessage width message :=
  isPlainMessage_of_isInfix hroom h.getLast? (by decide) (by decide) (by decide) hcolon htext hline hwithin

end IsSkipWarning
end DashboardSynthesis
