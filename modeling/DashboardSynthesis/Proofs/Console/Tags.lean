import DashboardSynthesis.Console.Basic
import DashboardSynthesis.Console.Message

/-!
# Tags in error lines

In a message without opening brackets there are no tags, so of an error line around it at most two tags are
left: the one in front of the message, and the one behind it unless backslashes at the end of the message
make text of that (`exists_pieces_errorLine_eq`).  Neither of the two can go wrong, so the line is shown on
every console that reads markup (`exists_text_errorLine_eq`), whatever else that console makes of tags.
-/

namespace DashboardSynthesis
namespace Markup

/-! ## The parts of a line -/

/-- The parts of a line from a tag on. -/
theorem scan_of_tag? {slashes : Nat} {rest tag after : Text} (h : tag? rest = some (tag, after)) :
    scan slashes (.scalar '[' :: rest) =
      ([], .plain (backslashes (slashes / 2)) ::
        (if slashes % 2 = 0 then Piece.ofTag tag else .plain (.scalar '[' :: tag ++ [.scalar ']'])) ::
        .plain (scan 0 after).1 :: (scan 0 after).2) := by
  rw [scan, if_neg (by decide), if_pos rfl]
  split
  · next tag' after' h' =>
    obtain ⟨rfl, rfl⟩ := Prod.mk.inj (Option.some.inj (h'.symm.trans h))
    rfl
  · next h' => exact absurd (h'.symm.trans h) (by simp)

/-- Text without brackets belongs to what is shown before the next tag. -/
theorem exists_scan_append_eq {t : Text} (h : .scalar '[' ∉ t) (slashes : Nat) (rest : Text) :
    ∃ next slashes', scan slashes (t ++ rest) =
      (next ++ (scan slashes' rest).1, (scan slashes' rest).2) := by
  induction t generalizing slashes with
  | nil => exact ⟨[], slashes, rfl⟩
  | cons c t ih =>
    rw [List.mem_cons, not_or] at h
    rw [List.cons_append, scan]
    by_cases hslash : c = .scalar '\\'
    · rw [if_pos hslash]
      exact ih h.2 (slashes + 1)
    · rw [if_neg hslash, if_neg (Ne.symm h.1)]
      obtain ⟨next, slashes', hnext⟩ := ih h.2 0
      refine ⟨backslashes slashes ++ c :: next, slashes', ?_⟩
      rw [hnext]
      simp

theorem ofTag_error : Piece.ofTag "error" = .opening "error" none := rfl

theorem ofTag_errorEnd : Piece.ofTag "/error" = .closing "error" := rfl

/-- The parts of an error line around a message without brackets.  Backslashes at the end of the message
may make text of the tag behind it. -/
theorem exists_pieces_errorLine_eq {message : Text} (h : .scalar '[' ∉ message) :
    ∃ shown slashes last, (last = .closing "error" ∨ ∃ t, last = .plain t) ∧
      pieces (errorLine message) =
        [.plain [], .plain [], .opening "error" none, .plain shown, .plain slashes, last, .plain []] := by
  have hline : errorLine message =
      .scalar '[' :: (("error]✗ " : Text) ++ message ++ (.scalar '[' :: ("/error]" : Text))) := rfl
  have hopening : tag? (("error]✗ " : Text) ++ message ++ (.scalar '[' :: ("/error]" : Text))) =
      some (("error" : Text), ("✗ " : Text) ++ message ++ (.scalar '[' :: ("/error]" : Text))) := rfl
  have hclosing : tag? ("/error]" : Text) = some (("/error" : Text), []) := rfl
  have hend : scan 0 [] = ([], []) := by
    rw [scan]
    rfl
  have hplain : .scalar '[' ∉ ("✗ " : Text) ++ message := by
    rw [List.mem_append, not_or]
    exact ⟨by decide, h⟩
  obtain ⟨next, slashes, hscan⟩ := exists_scan_append_eq hplain 0 (.scalar '[' :: ("/error]" : Text))
  rw [pieces, hline, scan_of_tag? hopening, hscan, scan_of_tag? hclosing, hend, ofTag_error,
    ofTag_errorEnd]
  refine ⟨_, _, _, ?_, rfl⟩
  split
  · exact .inl rfl
  · exact .inr ⟨_, rfl⟩

/-! ## What is shown of the parts -/

/-- Behind a place and open tags, parts of a line show a text, and all that is said about its looks can be
read. -/
def Shows (evaluates : Text → Bool) (place : Nat) (opened : List OpenTag) (parts : List Piece)
    (text : Text) : Prop :=
  ∃ spans, resolve evaluates place opened parts = .ok (text, spans) ∧
    ∀ span ∈ spans, ∃ look, styleName span.look = .ok look

variable {evaluates : Text → Bool} {place : Nat} {opened : List OpenTag} {rest : List Piece} {t text : Text}

/-- Tags that stay open are drawn up to the end of the line. -/
theorem shows_nil (h : ∀ tag ∈ opened, ∃ look, styleName (tag.span place).look = .ok look) :
    Shows evaluates place opened [] [] := by
  refine ⟨opened.map (OpenTag.span · place), rfl, fun span hspan => ?_⟩
  obtain ⟨tag, htag, rfl⟩ := List.mem_map.1 hspan
  exact h tag htag

theorem Shows.plain (h : Shows evaluates (place + extent (Emoji.shown t)) opened rest text) :
    Shows evaluates place opened (.plain t :: rest) (Emoji.shown t ++ text) := by
  obtain ⟨spans, hresolve, hlooks⟩ := h
  refine ⟨spans, ?_, hlooks⟩
  rw [resolve, hresolve]
  rfl

theorem Shows.opening {name style : Text} {parameters : Option Text} (hname : styleName name = .ok style)
    (h : Shows evaluates place (⟨style, parameters, place⟩ :: opened) rest text) :
    Shows evaluates place opened (.opening name parameters :: rest) text := by
  obtain ⟨spans, hresolve, hlooks⟩ := h
  refine ⟨spans, ?_, hlooks⟩
  rw [resolve, hname]
  exact hresolve

/-- A name closes the innermost tag if that has the name. -/
theorem close_cons {tag : OpenTag} {name : Text} (hname : name ≠ []) (h : styleName name = .ok tag.name) :
    close (tag :: opened) name = .ok (tag, opened) := by
  rw [close, if_neg (by simpa using hname), h]
  simp [bind, Except.bind, pure, Except.pure]

/-- A tag that says how the text in it looks is drawn up to the place where it is closed. -/
theorem Shows.closing {tag : OpenTag} {opened' : List OpenTag} {name look : Text}
    (hclose : close opened name = .ok (tag, opened')) (htag : ¬ tag.isAction = true)
    (hlook : styleName (tag.span place).look = .ok look) (h : Shows evaluates place opened' rest text) :
    Shows evaluates place opened (.closing name :: rest) text := by
  obtain ⟨spans, hresolve, hlooks⟩ := h
  refine ⟨tag.span place :: spans, ?_, List.forall_mem_cons.2 ⟨⟨look, hlook⟩, hlooks⟩⟩
  rw [resolve, hclose]
  simp [bind, Except.bind, pure, Except.pure, closedSpans, htag, hresolve]

/-- The only open tag is closed at the end of a line. -/
theorem shows_closing {name : Text} (hname : name ≠ []) (hstyle : styleName name = .ok name)
    (haction : name.head? ≠ some (.scalar '@')) (start place : Nat) :
    Shows evaluates place [⟨name, none, start⟩] [.closing name, .plain []] (Emoji.shown [] ++ []) := by
  have hclose : close [⟨name, none, start⟩] name = .ok (⟨name, none, start⟩, []) := close_cons hname hstyle
  have hlook : ¬ (⟨name, none, start⟩ : OpenTag).isAction = true := by simpa [OpenTag.isAction] using haction
  exact .closing hclose hlook hstyle (.plain (shows_nil (by simp)))

theorem forM_styleName {spans : List Span}
    (h : ∀ span ∈ spans, ∃ look, styleName span.look = .ok look) :
    (spans.forM fun span => discard (styleName span.look)) = .ok () := by
  induction spans with
  | nil => rfl
  | cons span spans ih =>
    obtain ⟨look, hlook⟩ := h span List.mem_cons_self
    show discard (styleName span.look) >>= (fun _ => spans.forM _) = _
    rw [hlook]
    exact ih fun other hother => h other (List.mem_cons_of_mem _ hother)

/-- A line is shown if its looks can be read, whatever of them is drawn. -/
theorem Shows.shown {line : Text} (h : Shows evaluates 0 [] (pieces line) text)
    (isDrawn : Span → Text → Bool) : shown evaluates isDrawn line = .ok text := by
  obtain ⟨spans, hresolve, hlooks⟩ := h
  have hdrawn : ((spans.filter (isDrawn · text)).forM fun span => discard (styleName span.look)) = .ok () :=
    forM_styleName fun span hspan => hlooks span (List.mem_filter.1 hspan).1
  rw [Markup.shown, hresolve]
  show (spans.filter (isDrawn · text)).forM _ >>= (fun _ => Except.ok text) = _
  rw [hdrawn]
  rfl

/-- This describes no style, so it is a name of its own. -/
theorem styleName_error : styleName "error" = .ok ("error" : Text) := by
  have hname : Style.nameOf "error" = .ok ("error" : Text) := rfl
  rw [styleName, hname]

/-- An error line around a message without brackets shows something. -/
theorem exists_shows_errorLine (evaluates : Text → Bool) {message : Text} (h : .scalar '[' ∉ message) :
    ∃ t, Shows evaluates 0 [] (pieces (errorLine message)) t := by
  obtain ⟨next, slashes, last, hlast, hpieces⟩ := exists_pieces_errorLine_eq h
  -- whether the tag is closed or not, its look is the only one that is drawn
  have hlastShows : ∃ t, ∀ start place,
      Shows evaluates place [⟨"error", none, start⟩] [last, .plain []] t := by
    obtain rfl | ⟨t, rfl⟩ := hlast
    · exact ⟨_, shows_closing (by decide) styleName_error (by decide)⟩
    · refine ⟨Emoji.shown t ++ (Emoji.shown [] ++ []), fun start place => ?_⟩
      refine .plain (.plain (shows_nil fun tag htag => ?_))
      rw [List.mem_singleton.1 htag]
      exact ⟨_, styleName_error⟩
  obtain ⟨t, ht⟩ := hlastShows
  rw [hpieces]
  exact ⟨_, .plain (.plain (.opening styleName_error (.plain (.plain (ht _ _)))))⟩

end Markup

/-- **Every console that reads markup shows an error line around a message without brackets.** -/
theorem Console.exists_text_errorLine_eq (width : Nat) (evaluates : Text → Bool) {message : Text}
    (h : .scalar '[' ∉ message) : ∃ t, (markup width evaluates).text (errorLine message) = .ok t := by
  obtain ⟨t, ht⟩ := Markup.exists_shows_errorLine evaluates h
  refine ⟨Layout.joinLines (Layout.lines width t), ?_⟩
  show interpret _ _ _ _ = _
  rw [interpret, ht.shown]

end DashboardSynthesis
