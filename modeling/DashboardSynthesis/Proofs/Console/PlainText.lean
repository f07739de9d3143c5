import DashboardSynthesis.Proofs.Console.Tags
import DashboardSynthesis.Proofs.Outcome
import Mathlib.Data.List.Basic
import Mathlib.Data.List.TakeWhile

/-!
# Text that is shown as it is

In a message on the console a bracket may start a tag, and a backslash may keep it from doing so.  Both are
taken away from what is shown, so they tell whether anything was: either a text has no tag and no backslash
before a bracket, and then it is one part of the line, as it is, or what is shown of it has fewer brackets
and backslashes (`isUntagged_or_marks_leftOver_lt`).  So a warning whose message names no emoji is shown as
it is exactly if there is no tag in it (`shown_warningLine_eq_or`).
-/

namespace DashboardSynthesis

/-! ## Marks -/

/-- Is this an opening bracket or a backslash? -/
def CodePoint.isMark (c : CodePoint) : Bool := c = .scalar '[' || c = .scalar '\\'

theorem CodePoint.isMark_iff {c : CodePoint} :
    c.isMark = true ↔ c = .scalar '[' ∨ c = .scalar '\\' := by
  rw [isMark, Bool.or_eq_true, decide_eq_true_eq, decide_eq_true_eq]

/-- The number of opening brackets and backslashes in a text. -/
def marks (t : Text) : Nat := t.countP CodePoint.isMark

theorem marks_append (t t' : Text) : marks (t ++ t') = marks t + marks t' := List.countP_append ..

theorem marks_cons (c : CodePoint) (t : Text) :
    marks (c :: t) = marks t + if c.isMark = true then 1 else 0 := List.countP_cons ..

theorem marks_eq_zero {t : Text} (h : ∀ c ∈ t, ¬ c.isMark = true) : marks t = 0 :=
  List.countP_eq_zero.2 h

/-! ## Emoji -/

/-- A text without a colon names no emoji. -/
theorem Emoji.shown_of_notMem {t : Text} (h : .scalar ':' ∉ t) : Emoji.shown t = t := by
  induction t with
  | nil => rw [Emoji.shown]
  | cons c t ih =>
    rw [List.mem_cons, not_or] at h
    rw [Emoji.shown, if_neg (Ne.symm h.1), ih h.2]

namespace Markup

/-! ## Parts without tags -/

theorem marks_backslashes (n : Nat) : marks (backslashes n) = n := by
  rw [marks, backslashes, List.countP_replicate]
  rfl

theorem backslashes_succ_append (n : Nat) (t : Text) :
    backslashes (n + 1) ++ t = backslashes n ++ .scalar '\\' :: t := by
  rw [backslashes, List.replicate_succ', List.append_assoc]
  rfl

/-- No bracket in a text starts a tag, and none stands behind a backslash. -/
def isUntagged (behindSlash : Bool) : Text → Bool
  | [] => true
  | c :: rest =>
    if c = .scalar '[' then !behindSlash && (tag? rest).isNone && isUntagged false rest
    else isUntagged (c = .scalar '\\') rest

/-- The text of a part of a line. -/
def Piece.text : Piece → Text
  | .plain t => t
  | .opening _ _ => []
  | .closing _ => []

theorem Piece.text_ofTag (tag : Text) : (Piece.ofTag tag).text = [] := by
  rw [Piece.ofTag]
  split <;> rfl

/-- The text of parts of a line. -/
def plainText (parts : List Piece) : Text := parts.flatMap Piece.text

/-- A tag and what follows, behind an opening bracket. -/
theorem eq_of_tag? {t tag after : Text} (h : tag? t = some (tag, after)) :
    t = tag ++ .scalar ']' :: after := by
  cases t with
  | nil => exact absurd h (by simp [tag?])
  | cons c rest =>
    rw [tag?] at h
    split at h
    · split at h
      · next behind hbehind =>
        obtain ⟨rfl, rfl⟩ := Prod.mk.inj (Option.some_inj.1 h)
        have hrest := List.takeWhile_append_dropWhile (p := fun c => !isBracket c) (l := rest)
        rw [hbehind] at hrest
        exact congrArg (c :: ·) hrest.symm
      · exact absurd h (by simp)
    · exact absurd h (by simp)

/-- A bracket that starts no tag. -/
theorem scan_of_tag?_eq_none {slashes : Nat} {rest : Text} (h : tag? rest = none) :
    scan slashes (.scalar '[' :: rest) =
      (backslashes (slashes - 1) ++ .scalar '[' :: (scan 0 rest).1, (scan 0 rest).2) := by
  rw [scan, if_neg (by decide), if_pos rfl]
  split
  · next tag after h' => exact absurd (h'.symm.trans h) (by simp)
  · rfl

theorem scan_backslash (slashes : Nat) (rest : Text) :
    scan slashes (.scalar '\\' :: rest) = scan (slashes + 1) rest := by
  rw [scan, if_pos rfl]

/-- Other text. -/
theorem scan_of_not_isMark {c : CodePoint} (h : ¬ c.isMark = true) (slashes : Nat) (rest : Text) :
    scan slashes (c :: rest) = (backslashes slashes ++ c :: (scan 0 rest).1, (scan 0 rest).2) := by
  rw [CodePoint.isMark_iff, not_or] at h
  rw [scan, if_neg h.2, if_neg h.1]

/-- Text without tags is one part, as it is. -/
theorem scan_of_isUntagged {t : Text} (slashes : Nat)
    (h : isUntagged (decide (0 < slashes)) t = true) :
    scan slashes t = (backslashes slashes ++ t, []) := by
  induction t generalizing slashes with
  | nil =>
    rw [scan, List.append_nil]
  | cons c t ih =>
    by_cases hmark : c.isMark = true
    · obtain rfl | rfl := CodePoint.isMark_iff.1 hmark
      · rw [isUntagged, if_pos rfl, Bool.and_eq_true, Bool.and_eq_true] at h
        obtain ⟨⟨hslashes, htag⟩, hrest⟩ := h
        obtain rfl : slashes = 0 := by simpa using hslashes
        rw [scan_of_tag?_eq_none (Option.isNone_iff_eq_none.1 htag), ih 0 hrest]
        rfl
      · rw [isUntagged, if_neg (by decide)] at h
        rw [scan_backslash, ih (slashes + 1) (by simpa using h), backslashes_succ_append]
    · have hplain := hmark
      rw [CodePoint.isMark_iff, not_or] at hplain
      rw [isUntagged, if_neg hplain.1] at h
      rw [scan_of_not_isMark hmark, ih 0 (by simpa [hplain.2] using h)]
      rfl

/-- What is left of a text, in which emoji are still named. -/
def leftOver (slashes : Nat) (t : Text) : Text := (scan slashes t).1 ++ plainText (scan slashes t).2

theorem leftOver_of_isUntagged {slashes : Nat} {t : Text}
    (h : isUntagged (decide (0 < slashes)) t = true) : leftOver slashes t = backslashes slashes ++ t := by
  rw [leftOver, scan_of_isUntagged slashes h]
  exact List.append_nil _

theorem leftOver_of_not_isMark {c : CodePoint} (h : ¬ c.isMark = true) (slashes : Nat) (rest : Text) :
    leftOver slashes (c :: rest) = backslashes slashes ++ c :: leftOver 0 rest := by
  rw [leftOver, scan_of_not_isMark h, List.append_assoc]
  rfl

theorem leftOver_of_tag?_eq_none {slashes : Nat} {rest : Text} (h : tag? rest = none) :
    leftOver slashes (.scalar '[' :: rest) =
      backslashes (slashes - 1) ++ .scalar '[' :: leftOver 0 rest := by
  rw [leftOver, scan_of_tag?_eq_none h, List.append_assoc]
  rfl

theorem leftOver_of_tag? {slashes : Nat} {rest tag after : Text} (h : tag? rest = some (tag, after)) :
    leftOver slashes (.scalar '[' :: rest) =
      backslashes (slashes / 2) ++
        ((if slashes % 2 = 0 then [] else .scalar '[' :: tag ++ [.scalar ']']) ++ leftOver 0 after) := by
  rw [leftOver, scan_of_tag? h, leftOver]
  by_cases heven : slashes % 2 = 0
  · rw [if_pos heven, if_pos heven]
    have htag : (Piece.ofTag tag).text = [] := Piece.text_ofTag tag
    show _ ++ ((Piece.ofTag tag).text ++ (_ ++ plainText _)) = _
    rw [htag]
    rfl
  · rw [if_neg heven, if_neg heven]
    rfl

/-- A bracket that starts a tag, or that stands behind a backslash, costs a mark. -/
theorem marks_leftOver_lt_of_tag? {slashes : Nat} {rest tag after : Text}
    (h : tag? rest = some (tag, after)) (hafter : marks (leftOver 0 after) ≤ marks after) :
    marks (leftOver slashes (.scalar '[' :: rest)) <
      marks (backslashes slashes ++ .scalar '[' :: rest) := by
  have hrest : marks (.scalar '[' :: rest) = marks tag + marks after + 1 := by
    rw [eq_of_tag? h, marks_cons, marks_append, marks_cons]
    rfl
  have htext : marks (.scalar '[' :: tag ++ [.scalar ']']) = marks tag + 1 := by
    rw [marks_append, marks_cons]
    rfl
  rw [leftOver_of_tag? h, marks_append, marks_append, marks_append, marks_backslashes, marks_backslashes,
    hrest]
  by_cases heven : slashes % 2 = 0
  · rw [if_pos heven]
    have hnil : marks [] = 0 := rfl
    omega
  · rw [if_neg heven, htext]
    omega

/-- **What is left of a text.**  It is the text as it is if there are no tags, and otherwise marks are
missing. -/
theorem isUntagged_or_marks_leftOver_lt (slashes : Nat) (t : Text) :
    isUntagged (decide (0 < slashes)) t = true ∨
      marks (leftOver slashes t) < marks (backslashes slashes ++ t) := by
  -- of what stands behind it is enough that no marks are added
  have hle : ∀ {t : Text}, (isUntagged false t = true ∨ marks (leftOver 0 t) < marks t) →
      marks (leftOver 0 t) ≤ marks t := by
    rintro t (h | h)
    · have hzero : isUntagged (decide (0 < 0)) t = true := h
      exact Nat.le_of_eq (congrArg marks (leftOver_of_isUntagged hzero))
    · exact Nat.le_of_lt h
  induction slashes, t using scan.induct with
  | case1 slashes => exact .inl rfl
  | case2 slashes rest ih =>
    rw [isUntagged, if_neg (by decide), leftOver, scan_backslash, ← leftOver, ← backslashes_succ_append]
    simpa using ih
  | case3 slashes rest tag after htag _ next pieces _ _ ih =>
    exact .inr (marks_leftOver_lt_of_tag? htag (hle ih))
  | case4 slashes rest htag next pieces _ _ ih =>
    have hmarks : marks (leftOver slashes (.scalar '[' :: rest)) =
        slashes - 1 + marks (leftOver 0 rest) + 1 := by
      rw [leftOver_of_tag?_eq_none htag, marks_append, marks_backslashes, marks_cons]
      rfl
    have hmarks' : marks (backslashes slashes ++ .scalar '[' :: rest) = slashes + marks rest + 1 := by
      rw [marks_append, marks_backslashes, marks_cons]
      rfl
    have hbehind : isUntagged false rest = true ∨ marks (leftOver 0 rest) < marks rest := ih
    have hrest := hle hbehind
    rw [hmarks, hmarks', isUntagged, if_pos rfl, htag]
    by_cases hslashes : slashes = 0
    · obtain huntagged | hless := hbehind
      · left
        simp [hslashes, huntagged]
      · right
        omega
    · right
      omega
  | case5 slashes c rest hslash hbracket next pieces _ ih =>
    have hmark : ¬ c.isMark = true := by
      rw [CodePoint.isMark_iff, not_or]
      exact ⟨hbracket, hslash⟩
    have hbehind : isUntagged false rest = true ∨ marks (leftOver 0 rest) < marks rest := ih
    rw [leftOver_of_not_isMark hmark, marks_append, marks_append, marks_cons, marks_cons, isUntagged,
      if_neg hbracket]
    obtain huntagged | hless := hbehind
    · left
      simpa [hslash] using huntagged
    · right
      omega

/-! ## What is shown -/

/-- What is shown of parts of a line is their text, with emoji in place of their names. -/
theorem eq_of_resolve {evaluates : Text → Bool} {place : Nat} {opened : List OpenTag} {parts : List Piece}
    {t : Text} {spans : List Span} (h : resolve evaluates place opened parts = .ok (t, spans)) :
    t = parts.flatMap fun piece => Emoji.shown piece.text := by
  have hnil : Emoji.shown [] = [] := Emoji.shown_of_notMem List.not_mem_nil
  induction parts generalizing place opened t spans with
  | nil => exact (congrArg Prod.fst (Except.ok.inj h)).symm
  | cons piece parts ih =>
    rw [List.flatMap_cons]
    cases piece with
    | plain text =>
      obtain ⟨⟨rest, spans'⟩, hrest, hpure⟩ := exists_of_bind_eq_ok h
      obtain ⟨rfl, -⟩ := Prod.mk.inj (Except.ok.inj hpure)
      rw [← ih hrest]
      rfl
    | opening name parameters =>
      obtain ⟨style, -, hrest⟩ := exists_of_bind_eq_ok h
      rw [ih hrest, Piece.text, hnil, List.nil_append]
    | closing name =>
      obtain ⟨⟨tag, opened'⟩, -, hclosed⟩ := exists_of_bind_eq_ok h
      obtain ⟨closed, -, hbehind⟩ := exists_of_bind_eq_ok hclosed
      obtain ⟨⟨text, spans'⟩, hrest, hpure⟩ := exists_of_bind_eq_ok hbehind
      obtain ⟨rfl, -⟩ := Prod.mk.inj (Except.ok.inj hpure)
      rw [ih hrest, Piece.text, hnil, List.nil_append]

/-- What is shown of a line is the text of its parts, with emoji in place of their names. -/
theorem eq_of_shown {evaluates : Text → Bool} {isDrawn : Span → Text → Bool} {line t : Text}
    (h : shown evaluates isDrawn line = .ok t) :
    t = (pieces line).flatMap fun piece => Emoji.shown piece.text := by
  obtain ⟨⟨text, spans⟩, hresolve, hrest⟩ := exists_of_bind_eq_ok h
  obtain ⟨-, -, hpure⟩ := exists_of_bind_eq_ok hrest
  rw [← Except.ok.inj hpure]
  exact eq_of_resolve hresolve

/-! ## A line between two tags -/

theorem takeWhile_append_of_dropWhile_ne_nil {α : Type} {p : α → Bool} {l : List α}
    (h : l.dropWhile p ≠ []) (l' : List α) : (l ++ l').takeWhile p = l.takeWhile p := by
  rw [List.takeWhile_append, if_neg]
  intro hlength
  have happend := congrArg List.length (List.takeWhile_append_dropWhile (p := p) (l := l))
  rw [List.length_append, hlength, Nat.add_eq_left, List.length_eq_zero_iff] at happend
  exact h happend

/-- A tag is found in the same way if another bracket stands behind the text. -/
theorem tag?_append (t rest : Text) :
    tag? (t ++ .scalar '[' :: rest) =
      (tag? t).map fun (tag, after) => (tag, after ++ .scalar '[' :: rest) := by
  cases t with
  | nil => rfl
  | cons c t =>
    rw [List.cons_append, tag?, tag?, List.dropWhile_append]
    cases hdrop : t.dropWhile fun c => !isBracket c with
    | nil =>
      rw [List.isEmpty_nil, if_pos rfl, List.dropWhile_cons_of_neg (by decide)]
      split <;> rfl
    | cons d behind =>
      have hne : t.dropWhile (fun c => !isBracket c) ≠ [] := by
        rw [hdrop]
        exact List.cons_ne_nil _ _
      rw [List.isEmpty_cons, if_neg Bool.false_ne_true, takeWhile_append_of_dropWhile_ne_nil hne,
        List.cons_append]
      split
      · split
        · next after heq =>
          obtain ⟨rfl, rfl⟩ := List.cons.inj heq
          rfl
        · next hother =>
          split
          · next after heq =>
            obtain ⟨rfl, rfl⟩ := List.cons.inj heq
            exact absurd rfl (hother _)
          · rfl
      · rfl

theorem getLast?_ne_of_suffix {c : CodePoint} {s t : Text} (h : s <:+ t) (hlast : t.getLast? ≠ some c) :
    s.getLast? ≠ some c := by
  obtain ⟨front, rfl⟩ := h
  intro hs
  rw [List.getLast?_append, hs] at hlast
  exact hlast rfl

/-- A tag behind a text is scanned on its own, unless the text ends with a backslash. -/
theorem scan_append {rest tag after : Text} (htag : tag? rest = some (tag, after)) (slashes : Nat)
    (t : Text) (hlast : (backslashes slashes ++ t).getLast? ≠ some (.scalar '\\')) :
    scan slashes (t ++ .scalar '[' :: rest) =
      ((scan slashes t).1, (scan slashes t).2 ++ (scan 0 (.scalar '[' :: rest)).2) := by
  induction slashes, t using scan.induct with
  | case1 slashes =>
    have hslashes : slashes = 0 := by
      cases slashes with
      | zero => rfl
      | succ n =>
        rw [backslashes_succ_append, List.getLast?_concat] at hlast
        exact absurd rfl hlast
    rw [hslashes, List.nil_append, scan_of_tag? htag, scan.eq_1]
    rfl
  | case2 slashes t ih =>
    rw [← backslashes_succ_append] at hlast
    rw [List.cons_append, scan_backslash, scan_backslash]
    exact ih hlast
  | case3 slashes t tag' after' htag' _ next pieces _ _ ih =>
    have happended : tag? (t ++ .scalar '[' :: rest) = some (tag', after' ++ .scalar '[' :: rest) := by
      rw [tag?_append, htag']
      rfl
    have hsuffix : after' <:+ backslashes slashes ++ .scalar '[' :: t := by
      rw [eq_of_tag? htag']
      exact ⟨backslashes slashes ++ .scalar '[' :: (tag' ++ [.scalar ']']), by simp⟩
    have hbehind := ih (getLast?_ne_of_suffix hsuffix hlast)
    rw [List.cons_append, scan_of_tag? happended, scan_of_tag? htag', hbehind]
    rfl
  | case4 slashes t htag' next pieces _ _ ih =>
    have happended : tag? (t ++ .scalar '[' :: rest) = none := by
      rw [tag?_append, htag']
      rfl
    have hsuffix : t <:+ backslashes slashes ++ .scalar '[' :: t :=
      ⟨backslashes slashes ++ [.scalar '['], by simp⟩
    have hbehind := ih (getLast?_ne_of_suffix hsuffix hlast)
    rw [List.cons_append, scan_of_tag?_eq_none happended, scan_of_tag?_eq_none htag', hbehind]
  | case5 slashes c t hslash hbracket next pieces _ ih =>
    have hmark : ¬ c.isMark = true := by
      rw [CodePoint.isMark_iff, not_or]
      exact ⟨hbracket, hslash⟩
    have hsuffix : t <:+ backslashes slashes ++ c :: t := ⟨backslashes slashes ++ [c], by simp⟩
    have hbehind := ih (getLast?_ne_of_suffix hsuffix hlast)
    rw [List.cons_append, scan_of_not_isMark hmark, scan_of_not_isMark hmark, hbehind]

/-! ## Warning lines -/

/-- This describes no style, so it is a name of its own. -/
theorem styleName_warning : styleName "warning" = .ok ("warning" : Text) := by
  have hname : Style.nameOf "warning" = .ok ("warning" : Text) := rfl
  rw [styleName, hname]

theorem ofTag_warning : Piece.ofTag "warning" = .opening "warning" none := rfl

theorem ofTag_warningEnd : Piece.ofTag "/warning" = .closing "warning" := rfl

/-- The parts of a warning line. -/
theorem pieces_warningLine {message : Text} (hlast : message.getLast? ≠ some (.scalar '\\')) :
    pieces (warningLine message) =
      [.plain [], .plain [], .opening "warning" none, .plain (("⚠ " : Text) ++ (scan 0 message).1)] ++
        ((scan 0 message).2 ++ [.plain [], .closing "warning", .plain []]) := by
  have hline : warningLine message =
      .scalar '[' :: (("warning]⚠ " : Text) ++ message ++ (.scalar '[' :: ("/warning]" : Text))) := rfl
  have hopening : tag? (("warning]⚠ " : Text) ++ message ++ (.scalar '[' :: ("/warning]" : Text))) =
      some (("warning" : Text), ("⚠ " : Text) ++ (message ++ (.scalar '[' :: ("/warning]" : Text)))) := rfl
  have hclosing : tag? ("/warning]" : Text) = some (("/warning" : Text), []) := rfl
  have hend : scan 0 [] = ([], []) := by
    rw [scan]
    rfl
  have hsign : ∀ t, scan 0 (("⚠ " : Text) ++ t) = (("⚠ " : Text) ++ (scan 0 t).1, (scan 0 t).2) := by
    intro t
    show scan 0 (.scalar '⚠' :: .scalar ' ' :: t) = _
    rw [scan_of_not_isMark (by decide), scan_of_not_isMark (by decide)]
    rfl
  rw [pieces, hline, scan_of_tag? hopening, hsign, scan_append hclosing 0 message hlast,
    scan_of_tag? hclosing, hend, ofTag_warning, ofTag_warningEnd]
  simp [backslashes]

/-- What is left of a text is made of what was there, and of backslashes. -/
theorem mem_of_mem_leftOver {c : CodePoint} {slashes : Nat} {t : Text} (hc : c ∈ leftOver slashes t) :
    c ∈ t ∨ c.isMark = true := by
  have hslash : ∀ {n : Nat}, c ∈ backslashes n → c.isMark = true := by
    intro n hmem
    rw [List.eq_of_mem_replicate hmem]
    rfl
  induction slashes, t using scan.induct with
  | case1 slashes =>
    have hnil : leftOver slashes [] = backslashes slashes := by
      rw [leftOver, scan]
      exact List.append_nil _
    rw [hnil] at hc
    exact .inr (hslash hc)
  | case2 slashes t ih =>
    rw [leftOver, scan_backslash] at hc
    exact (ih hc).imp (List.mem_cons_of_mem _) id
  | case3 slashes t tag after htag _ next pieces _ _ ih =>
    have ht := eq_of_tag? htag
    rw [leftOver_of_tag? htag, List.mem_append, List.mem_append] at hc
    obtain hc | hc | hc := hc
    · exact .inr (hslash hc)
    · left
      rw [ht]
      split at hc
      · exact absurd hc List.not_mem_nil
      · simp only [List.cons_append, List.mem_cons, List.mem_append, List.not_mem_nil] at hc ⊢
        tauto
    · refine (ih hc).imp (fun hmem => ?_) id
      rw [ht]
      exact List.mem_cons_of_mem _ (List.mem_append_right _ (List.mem_cons_of_mem _ hmem))
  | case4 slashes t htag next pieces _ _ ih =>
    rw [leftOver_of_tag?_eq_none htag, List.mem_append, List.mem_cons] at hc
    obtain hc | rfl | hc := hc
    · exact .inr (hslash hc)
    · exact .inl List.mem_cons_self
    · exact (ih hc).imp (List.mem_cons_of_mem _) id
  | case5 slashes d t hslash' hbracket next pieces _ ih =>
    have hmark : ¬ d.isMark = true := by
      rw [CodePoint.isMark_iff, not_or]
      exact ⟨hbracket, hslash'⟩
    rw [leftOver_of_not_isMark hmark, List.mem_append, List.mem_cons] at hc
    obtain hc | rfl | hc := hc
    · exact .inr (hslash hc)
    · exact .inl List.mem_cons_self
    · exact (ih hc).imp (List.mem_cons_of_mem _) id

/-- A warning in which there is no tag and no emoji is shown as it is. -/
theorem shown_warningLine (evaluates : Text → Bool) (isDrawn : Span → Text → Bool) {message : Text}
    (hlast : message.getLast? ≠ some (.scalar '\\')) (htags : isUntagged false message = true)
    (hemoji : Emoji.shown message = message) :
    shown evaluates isDrawn (warningLine message) = .ok (("⚠ " : Text) ++ message) := by
  have hscan : scan 0 message = (message, []) := scan_of_isUntagged 0 htags
  have hnil : Emoji.shown [] = [] := Emoji.shown_of_notMem List.not_mem_nil
  have hsign : Emoji.shown (("⚠ " : Text) ++ message) = ("⚠ " : Text) ++ message := by
    show Emoji.shown (.scalar '⚠' :: .scalar ' ' :: message) = _
    rw [Emoji.shown, if_neg (by decide), Emoji.shown, if_neg (by decide), hemoji]
    rfl
  have hline : Shows evaluates 0 []
      [.plain [], .plain [], .opening "warning" none, .plain (("⚠ " : Text) ++ message), .plain [],
        .closing "warning", .plain []]
      (Emoji.shown [] ++ (Emoji.shown [] ++ (Emoji.shown (("⚠ " : Text) ++ message) ++
        (Emoji.shown [] ++ (Emoji.shown [] ++ []))))) :=
    .plain (.plain (.opening styleName_warning (.plain (.plain
      (shows_closing (by decide) styleName_warning (by decide) _ _)))))
  rw [hsign, hnil] at hline
  refine Shows.shown ?_ isDrawn
  rw [pieces_warningLine hlast, hscan]
  simpa using hline

/-- What is shown of a warning without colons. -/
theorem eq_of_shown_warningLine {evaluates : Text → Bool} {isDrawn : Span → Text → Bool} {message t : Text}
    (hlast : message.getLast? ≠ some (.scalar '\\')) (hcolon : .scalar ':' ∉ message)
    (h : shown evaluates isDrawn (warningLine message) = .ok t) :
    t = ("⚠ " : Text) ++ leftOver 0 message := by
  have hleft : .scalar ':' ∉ leftOver 0 message := by
    intro hmem
    obtain hmem | hmark := mem_of_mem_leftOver hmem
    · exact hcolon hmem
    · exact absurd hmark (by decide)
  rw [leftOver, List.mem_append, not_or] at hleft
  have hnext : Emoji.shown (("⚠ " : Text) ++ (scan 0 message).1) = ("⚠ " : Text) ++ (scan 0 message).1 := by
    refine Emoji.shown_of_notMem ?_
    rw [List.mem_append, not_or]
    exact ⟨by decide, hleft.1⟩
  have hpieces : ((scan 0 message).2.flatMap fun piece => Emoji.shown piece.text) =
      plainText (scan 0 message).2 := by
    refine List.flatMap_congr fun piece hpiece => Emoji.shown_of_notMem fun hmem => hleft.2 ?_
    exact List.mem_flatMap.2 ⟨piece, hpiece, hmem⟩
  have hnil : Emoji.shown [] = [] := Emoji.shown_of_notMem List.not_mem_nil
  rw [eq_of_shown h, pieces_warningLine hlast, List.flatMap_append, List.flatMap_append, hpieces, leftOver,
    ← List.append_assoc]
  simp [Piece.text, hnil, hnext]

/-- **A warning without colons is shown as it is, or brackets and backslashes are missing.** -/
theorem shown_warningLine_eq_or {evaluates : Text → Bool} {isDrawn : Span → Text → Bool} {message t : Text}
    (hlast : message.getLast? ≠ some (.scalar '\\')) (hcolon : .scalar ':' ∉ message)
    (h : shown evaluates isDrawn (warningLine message) = .ok t) :
    isUntagged false message = true ∧ t = ("⚠ " : Text) ++ message ∨ marks t < marks message := by
  have ht := eq_of_shown_warningLine hlast hcolon h
  obtain huntagged | hless := isUntagged_or_marks_leftOver_lt 0 message
  · left
    exact ⟨huntagged, ht.trans (congrArg _ (leftOver_of_isUntagged huntagged))⟩
  · right
    rw [ht, marks_append]
    have hsign : marks ("⚠ " : Text) = 0 := by decide
    have hmessage : marks (backslashes 0 ++ message) = marks message := rfl
    omega

end Markup
end DashboardSynthesis
