import DashboardSynthesis.Proofs.Console.PlainText
import DashboardSynthesis.Proofs.FileTree.LastName
import DashboardSynthesis.Console.Basic

/-!
# Lines on the console

In laying out a text nothing is lost but control codes, tabs, and what sticks out at the end of a line: the
lines that words fill are the words one behind the other (`flatten_fill`), and a line is cut off at its end
only (`exists_crop_eq`).  A text without control codes that does not end with a blank is laid out as it is
if it fits on a line (`lines_eq_of_width_le`); it takes a single line only then, given that there is room for
the first word (`eq_and_width_le_of_lines_eq`).
-/

namespace DashboardSynthesis

/-! ## Widths -/

theorem Text.width_append (s t : Text) : Text.width (s ++ t) = Text.width s + Text.width t := by
  induction s with
  | nil => rw [List.nil_append, Text.width, Nat.zero_add]
  | cons c s ih => rw [List.cons_append, Text.width, Text.width, ih, Nat.add_assoc]

/-! ## Pieces of a text -/

theorem Text.mem_of_mem_splitOn {sep c : CodePoint} {t piece : Text} (h : piece ∈ splitOn sep t)
    (hc : c ∈ piece) : c ∈ t ∧ c ≠ sep := by
  induction t generalizing piece with
  | nil =>
    rw [splitOn, List.mem_singleton] at h
    rw [h] at hc
    exact absurd hc List.not_mem_nil
  | cons d t ih =>
    rw [splitOn] at h
    split at h
    · obtain rfl | h := List.mem_cons.1 h
      · exact absurd hc List.not_mem_nil
      · obtain ⟨hmem, hne⟩ := ih h hc
        exact ⟨List.mem_cons_of_mem _ hmem, hne⟩
    · next hsep =>
      split at h
      · next hnil => exact absurd hnil (splitOn_ne_nil sep t)
      · next first rest hsplit =>
        rw [hsplit] at ih
        obtain rfl | h := List.mem_cons.1 h
        · obtain rfl | hc := List.mem_cons.1 hc
          · exact ⟨List.mem_cons_self, hsep⟩
          · obtain ⟨hmem, hne⟩ := ih List.mem_cons_self hc
            exact ⟨List.mem_cons_of_mem _ hmem, hne⟩
        · obtain ⟨hmem, hne⟩ := ih (List.mem_cons_of_mem _ h) hc
          exact ⟨List.mem_cons_of_mem _ hmem, hne⟩

theorem marks_flatten_splitOn_le (sep : CodePoint) (t : Text) :
    marks (Text.splitOn sep t).flatten ≤ marks t := by
  induction t with
  | nil => exact Nat.le_refl _
  | cons c t ih =>
    rw [Text.splitOn, marks_cons]
    split
    · rw [List.flatten_cons, List.nil_append]
      omega
    · split
      · next hnil => exact absurd hnil (Text.splitOn_ne_nil sep t)
      · next first rest hsplit =>
        rw [hsplit] at ih
        rw [List.flatten_cons, List.cons_append, marks_cons, ← List.flatten_cons]
        omega

namespace Layout

/-! ## Tabs -/

theorem expandTabs_of_notMem {t : Text} (h : .scalar '\t' ∉ t) (column : Nat) : expandTabs column t = t := by
  induction t generalizing column with
  | nil => rfl
  | cons c t ih =>
    rw [List.mem_cons, not_or] at h
    rw [expandTabs, if_neg (Ne.symm h.1), ih h.2]

theorem mem_of_mem_expandTabs {c : CodePoint} {column : Nat} {t : Text} (hc : c ∈ expandTabs column t) :
    c ∈ t ∧ c ≠ .scalar '\t' ∨ c = .scalar ' ' := by
  induction t generalizing column with
  | nil => exact absurd hc List.not_mem_nil
  | cons d t ih =>
    rw [expandTabs] at hc
    split at hc
    · obtain hc | hc := List.mem_append.1 hc
      · exact .inr (List.eq_of_mem_replicate hc)
      · exact (ih hc).imp (fun ⟨hmem, hne⟩ => ⟨List.mem_cons_of_mem _ hmem, hne⟩) id
    · next htab =>
      obtain rfl | hc := List.mem_cons.1 hc
      · exact .inl ⟨List.mem_cons_self, htab⟩
      · exact (ih hc).imp (fun ⟨hmem, hne⟩ => ⟨List.mem_cons_of_mem _ hmem, hne⟩) id

theorem marks_expandTabs (column : Nat) (t : Text) : marks (expandTabs column t) = marks t := by
  induction t generalizing column with
  | nil => rfl
  | cons c t ih =>
    rw [expandTabs]
    split
    · next htab =>
      have hblanks : ∀ d ∈ blanks (8 - column % 8), ¬ d.isMark = true := by
        intro d hd
        rw [List.eq_of_mem_replicate hd]
        decide
      rw [marks_append, marks_eq_zero hblanks, ih, marks_cons, htab]
      exact Nat.zero_add _
    · rw [marks_cons, marks_cons, ih]

/-! ## Words -/

theorem flatMap_wordsFrom (t : Text) : (wordsFrom t).flatMap Word.text = t := by
  induction t with
  | nil => rfl
  | cons c t ih =>
    rw [wordsFrom]
    split
    · next hnil =>
      rw [hnil] at ih
      split <;> simp [Word.text, ← ih]
    · next w words hwords =>
      rw [hwords, List.flatMap_cons] at ih
      split
      · simp [Word.text, ← ih]
      · split
        · next hbody => simp [Word.text, ← ih, List.isEmpty_iff.1 hbody]
        · simp [Word.text, ← ih]

/-- The words of a line are the line. -/
theorem flatMap_words (t : Text) : (words t).flatMap Word.text = t := by
  have h := flatMap_wordsFrom t
  rw [words]
  split
  · next start w rest heq =>
    rw [heq] at h
    rw [← h]
    simp [Word.text]
  · exact h

/-- What stands behind the body of a word is blank. -/
theorem isBlank_of_mem_gap {t : Text} {w : Word} (hw : w ∈ words t) {c : CodePoint} (hc : c ∈ w.gap) :
    c.isBlank = true := by
  have hfrom : ∀ {t : Text} {w : Word}, w ∈ wordsFrom t → ∀ c ∈ w.gap, c.isBlank = true := by
    intro t
    induction t with
    | nil => exact fun hw => absurd hw List.not_mem_nil
    | cons c t ih =>
      intro w hw
      rw [wordsFrom] at hw
      split at hw
      · split at hw
        · next hblank =>
          rw [List.mem_singleton.1 hw]
          simpa using hblank
        · rw [List.mem_singleton.1 hw]
          exact fun d hd => absurd hd List.not_mem_nil
      · next first rest hwords =>
        rw [hwords] at ih
        have hfirst := ih List.mem_cons_self
        have hrest : ∀ w ∈ rest, ∀ d ∈ w.gap, d.isBlank = true :=
          fun w hw => ih (List.mem_cons_of_mem _ hw)
        split at hw
        · obtain rfl | hw := List.mem_cons.1 hw
          · exact hfirst
          · exact hrest w hw
        · next hblank =>
          have hblank : c.isBlank = true := by simpa using hblank
          split at hw
          · obtain rfl | hw := List.mem_cons.1 hw
            · exact List.forall_mem_cons.2 ⟨hblank, hfirst⟩
            · exact hrest w hw
          · obtain rfl | hw := List.mem_cons.1 hw
            · simpa using hblank
            · exact ih hw
  rw [words] at hw
  split at hw
  · next start first rest heq =>
    obtain rfl | hw := List.mem_cons.1 hw
    · exact hfrom (t := t) (w := first) (by simp [heq]) c hc
    · exact hfrom (t := t) (w := w) (by simp [heq, hw]) c hc
  · exact hfrom hw c hc

/-- There is nothing behind the last word of a text that does not end with a blank. -/
theorem gap_getLast?_words {t : Text} (h : ∀ c ∈ t.getLast?, ¬ c.isBlank = true) :
    ∀ w ∈ (words t).getLast?, w.gap = [] := by
  intro w hw
  obtain ⟨front, hwords⟩ := List.getLast?_eq_some_iff.1 hw
  obtain hgap | ⟨gap, c, hgap⟩ := List.eq_nil_or_concat' w.gap
  · exact hgap
  · have hmem : w ∈ words t := List.mem_of_getLast? hw
    have hlast : c ∈ t.getLast? := by
      rw [← flatMap_words t, hwords, List.flatMap_append, List.flatMap_singleton, Word.text, hgap,
        ← List.append_assoc, ← List.append_assoc]
      exact List.getLast?_concat
    exact absurd (isBlank_of_mem_gap hmem (by simp [hgap])) (h c hlast)

/-- The first word of a text that does not start with a blank, and in which a blank follows. -/
theorem exists_words_cons_cons_eq {c d : CodePoint} (hc : ¬ c.isBlank = true) (hd : d.isBlank = true)
    (t : Text) : ∃ gap rest, words (c :: d :: t) = ⟨[c], d :: gap⟩ :: rest := by
  have hgap : ∃ gap rest, wordsFrom (d :: t) = ⟨[], d :: gap⟩ :: rest := by
    rw [wordsFrom]
    split
    · rw [if_pos hd]
      exact ⟨[], [], rfl⟩
    · next w rest _ =>
      rw [if_neg (by simp [hd])]
      split
      · exact ⟨w.gap, rest, rfl⟩
      · exact ⟨[], w :: rest, rfl⟩
  obtain ⟨gap, rest, hgap⟩ := hgap
  have hfrom : wordsFrom (c :: d :: t) = ⟨[c], d :: gap⟩ :: rest := by
    rw [wordsFrom, hgap]
    simp [hc]
  refine ⟨gap, rest, ?_⟩
  rw [words, hfrom]

/-! ## Filling lines -/

theorem flatten_chop (width : Nat) (line t : Text) : (chop width line t).flatten = line ++ t := by
  induction t generalizing line with
  | nil => simp [chop]
  | cons c t ih =>
    rw [chop]
    split
    · rw [List.flatten_cons, ih]
      rfl
    · rw [ih, List.append_assoc]
      rfl

theorem chop_ne_nil (width : Nat) (line t : Text) : chop width line t ≠ [] := by
  induction t generalizing line with
  | nil => simp [chop]
  | cons c t ih =>
    rw [chop]
    split
    · simp
    · exact ih _

theorem flatten_dropWhile_isEmpty (ls : List Text) : (ls.dropWhile List.isEmpty).flatten = ls.flatten := by
  induction ls with
  | nil => rfl
  | cons line ls ih =>
    rw [List.dropWhile_cons]
    split
    · next hempty => rw [ih, List.flatten_cons, List.isEmpty_iff.1 hempty, List.nil_append]
    · rfl

theorem flatten_dropLast_append (ls : List Text) :
    ls.dropLast.flatten ++ ls.getLast?.getD [] = ls.flatten := by
  obtain rfl | ⟨front, last, rfl⟩ := List.eq_nil_or_concat' ls
  · rfl
  · rw [List.dropLast_concat, List.getLast?_concat, Option.getD_some, List.flatten_concat]

/-- **The lines that words fill are the words, one behind the other.** -/
theorem flatten_fill (width : Nat) (line : Text) (ws : List Word) :
    (fill width line ws).flatten = line ++ ws.flatMap Word.text := by
  induction ws generalizing line with
  | nil => simp [fill]
  | cons w ws ih =>
    rw [fill, List.flatMap_cons]
    split
    · rw [ih, List.append_assoc]
    · split
      · rw [List.flatten_cons, ih]
      · -- a word that is broken leaves its end on the line that goes on
        dsimp only
        rw [List.flatten_append, ih, ← List.append_assoc, flatten_dropLast_append,
          flatten_dropWhile_isEmpty, List.flatten_cons, flatten_chop, List.nil_append, List.append_assoc]

theorem fill_of_width_le {width : Nat} {line : Text} {ws : List Word}
    (h : Text.width (line ++ ws.flatMap Word.text) ≤ width) :
    fill width line ws = [line ++ ws.flatMap Word.text] := by
  induction ws generalizing line with
  | nil => simp [fill]
  | cons w ws ih =>
    rw [List.flatMap_cons, ← List.append_assoc] at h ⊢
    have hfits : line.width + w.body.width ≤ width := by
      rw [Word.text, Text.width_append, Text.width_append, Text.width_append] at h
      omega
    rw [fill, if_pos hfits]
    exact ih h

/-- A line that has been begun is the only one if the words fit behind it, up to what stands behind the
last one. -/
theorem width_le_of_fill_eq_singleton {width : Nat} {line l : Text} {ws : List Word} (hline : line ≠ [])
    (hws : ws ≠ []) (hgap : ∀ w ∈ ws.getLast?, w.gap = []) (h : fill width line ws = [l]) :
    l.width ≤ width := by
  induction ws generalizing line with
  | nil => exact absurd rfl hws
  | cons w ws ih =>
    rw [fill] at h
    split at h
    · next hfits =>
      obtain rfl | hne := eq_or_ne ws []
      · rw [fill] at h
        rw [← List.singleton_inj.1 h, Word.text, hgap w rfl, List.append_nil, Text.width_append]
        exact hfits
      · refine ih (List.append_ne_nil_of_left_ne_nil hline _) hne ?_ h
        rwa [List.getLast?_cons_of_ne_nil hne] at hgap
    · split at h
      · exact absurd (List.cons.inj h).2 (fill_ne_nil _ _ _)
      · -- the line begun and the first part of the word are two lines
        have hlength := congrArg List.length h
        have hrest := List.length_pos_of_ne_nil (fill_ne_nil width
          (((line :: chop width [] w.text).dropWhile List.isEmpty).getLast?.getD []) ws)
        have hchop := List.length_pos_of_ne_nil (chop_ne_nil width [] w.text)
        rw [List.dropWhile_cons_of_neg (by simpa using hline)] at hlength hrest
        simp only [List.length_append, List.length_dropLast, List.length_cons, List.length_nil] at hlength
        omega

/-! ## What sticks out -/

theorem trimEnd_isPrefix (width : Nat) (line : Text) : trimEnd width line <+: line := List.take_prefix _ _

theorem trimEnd_of_getLast? {line : Text} (h : ∀ c ∈ line.getLast?, ¬ c.isBlank = true) (width : Nat) :
    trimEnd width line = line := by
  have hnone : line.reverse.takeWhile CodePoint.isBlank = [] := by
    obtain rfl | ⟨front, c, rfl⟩ := List.eq_nil_or_concat' line
    · rfl
    · rw [List.reverse_concat, List.takeWhile_cons_of_neg (h c List.getLast?_concat)]
  rw [trimEnd, hnone]
  simp

/-- A line is cut off at its end, where there may be a blank for a half of something. -/
theorem exists_cut_eq (room : Nat) (line : Text) (start stop : Nat) :
    ∃ front n, front <+: line ∧ cut room line start stop = front ++ blanks n := by
  induction start, stop using cut.induct room line with
  | case1 start stop middle before hhalf =>
    rw [cut, if_pos hhalf]
    exact ⟨_, 1, (List.dropLast_prefix _).trans (List.take_prefix _ _), rfl⟩
  | case2 start stop middle before hhalf hends =>
    rw [cut, if_neg hhalf, if_pos hends]
    exact ⟨_, 0, List.take_prefix _ _, (List.append_nil _).symm⟩
  | case3 start stop middle before hhalf hends hwide ih =>
    rw [cut, if_neg hhalf, if_neg hends, if_pos hwide]
    exact ih
  | case4 start stop middle before hhalf hends hwide ih =>
    rw [cut, if_neg hhalf, if_neg hends, if_neg hwide]
    exact ih

theorem crop_of_width_le {room : Nat} {line : Text} (h : line.width ≤ room) : crop room line = line :=
  if_pos h

theorem exists_crop_eq (room : Nat) (line : Text) :
    ∃ front n, front <+: line ∧ crop room line = front ++ blanks n := by
  rw [crop]
  split
  · exact ⟨line, 0, List.prefix_rfl, (List.append_nil _).symm⟩
  · split
    · exact ⟨[], 0, List.nil_prefix, rfl⟩
    · exact exists_cut_eq _ _ _ _

theorem not_isMark_of_mem_blanks {c : CodePoint} {n : Nat} (h : c ∈ blanks n) : ¬ c.isMark = true := by
  rw [List.eq_of_mem_replicate h]
  decide

theorem marks_crop_le (room : Nat) (line : Text) : marks (crop room line) ≤ marks line := by
  obtain ⟨front, n, hfront, hcrop⟩ := exists_crop_eq room line
  rw [hcrop, marks_append, marks_eq_zero fun c hc => not_isMark_of_mem_blanks hc]
  exact hfront.sublist.countP_le

theorem marks_flatten_map_finishLine_le (width : Nat) (ls : List Text) :
    marks (ls.map (finishLine width)).flatten ≤ marks ls.flatten := by
  induction ls with
  | nil => exact Nat.le_refl _
  | cons line ls ih =>
    have hline : marks (finishLine width line) ≤ marks line :=
      (marks_crop_le width _).trans (trimEnd_isPrefix width line).sublist.countP_le
    rw [List.map_cons, List.flatten_cons, List.flatten_cons, marks_append, marks_append]
    omega

theorem mem_of_mem_finishLine {width : Nat} {line : Text} {c : CodePoint} (h : c ∈ finishLine width line) :
    c ∈ line ∨ c = .scalar ' ' := by
  obtain ⟨front, n, hfront, hcrop⟩ := exists_crop_eq width (trimEnd width line)
  rw [finishLine, hcrop, List.mem_append] at h
  exact h.imp (fun hmem => (trimEnd_isPrefix width line).mem (hfront.mem hmem)) List.eq_of_mem_replicate

theorem finishLine_of_width_le {width : Nat} {line : Text} (hlast : ∀ c ∈ line.getLast?, ¬ c.isBlank = true)
    (h : line.width ≤ width) : finishLine width line = line := by
  rw [finishLine, trimEnd_of_getLast? hlast, crop_of_width_le h]

/-! ## Laying out a text -/

theorem flatten_filledLines (width : Nat) (line : Text) :
    (filledLines width line).flatten = expandTabs 0 line := by
  rw [filledLines, flatten_fill, flatMap_words, List.nil_append]

/-- In laying out a text no brackets and backslashes are added. -/
theorem marks_flatten_lines_le (width : Nat) (t : Text) : marks (lines width t).flatten ≤ marks t := by
  have hpieces : ∀ pieces : List Text,
      marks (pieces.flatMap fun line => (filledLines width line).map (finishLine width)).flatten ≤
        marks pieces.flatten := by
    intro pieces
    induction pieces with
    | nil => exact Nat.le_refl _
    | cons piece pieces ih =>
      have hpiece := marks_flatten_map_finishLine_le width (filledLines width piece)
      rw [flatten_filledLines, marks_expandTabs] at hpiece
      rw [List.flatMap_cons, List.flatten_append, List.flatten_cons, marks_append, marks_append]
      omega
  have hdropped : marks (t.filter fun c => !c.isDroppedOnConsole) ≤ marks t :=
    List.filter_sublist.countP_le
  calc marks (lines width t).flatten
      ≤ marks (givenLines t).flatten := hpieces _
    _ ≤ marks (t.filter fun c => !c.isDroppedOnConsole) := marks_flatten_splitOn_le _ _
    _ ≤ marks t := hdropped

/-- Has the console something else to do with this code point than to show it? -/
def isControl (c : CodePoint) : Bool :=
  c.isDroppedOnConsole || c = .scalar '\t' || c = .scalar '\n'

/-- No control code is found on a line. -/
theorem not_isControl_of_mem_lines {width : Nat} {t line : Text} {c : CodePoint}
    (hline : line ∈ lines width t) (hc : c ∈ line) : ¬ isControl c = true := by
  rw [lines, List.mem_flatMap] at hline
  obtain ⟨piece, hpiece, hline⟩ := hline
  obtain ⟨filled, hfilled, rfl⟩ := List.mem_map.1 hline
  obtain hc | rfl := mem_of_mem_finishLine hc
  case inr => decide
  have hmem : c ∈ (filledLines width piece).flatten := List.mem_flatten.2 ⟨filled, hfilled, hc⟩
  rw [flatten_filledLines] at hmem
  obtain ⟨hmem, htab⟩ | rfl := mem_of_mem_expandTabs hmem
  · obtain ⟨hkept, hbreak⟩ := Text.mem_of_mem_splitOn hpiece hmem
    have hdropped : ¬ c.isDroppedOnConsole = true := by simpa using (List.mem_filter.1 hkept).2
    simp [isControl, hdropped, htab, hbreak]
  · decide

/-- A text without control codes is laid out word by word. -/
theorem lines_of_not_isControl {t : Text} (h : ∀ c ∈ t, ¬ isControl c = true) (width : Nat) :
    lines width t = (fill width [] (words t)).map (finishLine width) := by
  have hdropped : t.filter (fun c => !c.isDroppedOnConsole) = t := by
    rw [List.filter_eq_self]
    intro c hc
    have hcontrol := h c hc
    simp only [isControl, Bool.or_eq_true, not_or] at hcontrol
    simp [hcontrol.1.1]
  have hbreak : .scalar '\n' ∉ t := fun hmem => h _ hmem (by decide)
  have htab : .scalar '\t' ∉ t := fun hmem => h _ hmem (by decide)
  rw [lines, givenLines, hdropped, Text.splitOn_of_notMem hbreak, List.flatMap_singleton, filledLines,
    expandTabs_of_notMem htab]

/-- **A text that fits on a line is laid out as it is**, unless there are control codes in it or a blank
at its end. -/
theorem lines_eq_of_width_le {width : Nat} {t : Text} (h : ∀ c ∈ t, ¬ isControl c = true)
    (hlast : ∀ c ∈ t.getLast?, ¬ c.isBlank = true) (hwidth : t.width ≤ width) : lines width t = [t] := by
  have hfill : fill width [] (words t) = [t] := by
    have hfits : Text.width ([] ++ (words t).flatMap Word.text) ≤ width := by
      rwa [flatMap_words, List.nil_append]
    rw [fill_of_width_le hfits, flatMap_words, List.nil_append]
  rw [lines_of_not_isControl h, hfill, List.map_singleton, finishLine_of_width_le hlast hwidth]

/-- **A text that takes a single line fits on it**, if there is room for what stands before its first
blank, no control code is in it and no blank at its end. -/
theorem eq_and_width_le_of_lines_eq {width : Nat} {c d : CodePoint} {t line : Text}
    (hc : ¬ c.isBlank = true) (hd : d.isBlank = true) (hroom : c.width ≤ width)
    (h : ∀ e ∈ c :: d :: t, ¬ isControl e = true) (hlast : ∀ e ∈ (c :: d :: t).getLast?, ¬ e.isBlank = true)
    (hlines : lines width (c :: d :: t) = [line]) :
    line = c :: d :: t ∧ Text.width (c :: d :: t) ≤ width := by
  obtain ⟨gap, rest, hwords⟩ := exists_words_cons_cons_eq hc hd t
  have hgap := gap_getLast?_words hlast
  rw [lines_of_not_isControl h] at hlines
  obtain ⟨filled, hfill, rfl⟩ := List.map_eq_singleton_iff.1 hlines
  have hflatten := flatten_fill width [] (words (c :: d :: t))
  rw [hfill, flatMap_words, List.nil_append, List.flatten_singleton] at hflatten
  subst hflatten
  have hrest : rest ≠ [] := by
    rintro rfl
    rw [hwords] at hgap
    exact absurd (hgap _ rfl) (by simp)
  have hwidth : Text.width (c :: d :: t) ≤ width := by
    rw [hwords, fill, if_pos (by simpa [Text.width] using hroom)] at hfill
    rw [hwords, List.getLast?_cons_of_ne_nil hrest] at hgap
    exact width_le_of_fill_eq_singleton (by simp [Word.text]) hrest hgap hfill
  exact ⟨finishLine_of_width_le hlast hwidth, hwidth⟩

/-! ## Single lines -/

theorem marks_joinLines (ls : List Text) : marks (joinLines ls) = marks ls.flatten := by
  induction ls with
  | nil => rfl
  | cons line ls ih =>
    rw [joinLines, List.flatMap_cons, ← joinLines, marks_append, marks_append, ih, List.flatten_cons,
      marks_append]
    rfl

theorem count_joinLines {ls : List Text} (h : ∀ line ∈ ls, .scalar '\n' ∉ line) :
    (joinLines ls).count (.scalar '\n') = ls.length := by
  induction ls with
  | nil => rfl
  | cons line ls ih =>
    have hline : line.count (.scalar '\n') = 0 := List.count_eq_zero.2 (h line List.mem_cons_self)
    have hbreak : ("\n" : Text).count (.scalar '\n') = 1 := rfl
    rw [joinLines, List.flatMap_cons, ← joinLines, List.count_append, List.count_append, hline, hbreak,
      ih fun other hother => h other (List.mem_cons_of_mem _ hother), List.length_cons]
    omega

/-- There is no line break in a line but the one at its end. -/
def IsLine (t : Text) : Prop := ∃ body, .scalar '\n' ∉ body ∧ t = body ++ ("\n" : Text)

theorem IsLine.count {t : Text} (h : IsLine t) : t.count (.scalar '\n') = 1 := by
  obtain ⟨body, hbody, rfl⟩ := h
  rw [List.count_append, List.count_eq_zero.2 hbody]
  rfl

/-- What is laid out is a line if it has a single line break. -/
theorem exists_of_count_eq_one {ls : List Text} (h : ∀ line ∈ ls, .scalar '\n' ∉ line)
    (hcount : (joinLines ls).count (.scalar '\n') = 1) :
    ∃ line, ls = [line] ∧ joinLines ls = line ++ ("\n" : Text) := by
  rw [count_joinLines h] at hcount
  obtain ⟨line, rfl⟩ := List.length_eq_one_iff.1 hcount
  exact ⟨line, rfl, List.append_nil _⟩

/-- The first break in a text ends its first line. -/
theorem eq_and_eq_of_append_cons {c : CodePoint} {s s' t t' : Text} (h : c ∉ s) (h' : c ∉ s')
    (heq : s ++ c :: t = s' ++ c :: t') : s = s' ∧ t = t' := by
  induction s generalizing s' with
  | nil =>
    cases s' with
    | nil => exact ⟨rfl, (List.cons.inj heq).2⟩
    | cons d s' => exact absurd ((List.cons.inj heq).1 ▸ List.mem_cons_self) h'
  | cons d s ih =>
    cases s' with
    | nil => exact absurd ((List.cons.inj heq).1 ▸ List.mem_cons_self) h
    | cons d' s' =>
      rw [List.mem_cons, not_or] at h h'
      obtain ⟨rfl, hrest⟩ := List.cons.inj heq
      obtain ⟨rfl, rfl⟩ := ih h.2 h'.2 hrest
      exact ⟨rfl, rfl⟩

/-- There is only one way to cut a text into lines. -/
theorem eq_of_flatten_eq {ls ls' : List Text} (h : ∀ line ∈ ls, IsLine line)
    (h' : ∀ line ∈ ls', IsLine line) (heq : ls.flatten = ls'.flatten) : ls = ls' := by
  have hnil : ∀ {ls : List Text}, (∀ line ∈ ls, IsLine line) → ls.flatten = [] → ls = [] := by
    intro ls hls hflatten
    cases ls with
    | nil => rfl
    | cons line ls =>
      obtain ⟨body, -, rfl⟩ := hls _ List.mem_cons_self
      have hbreak := (List.append_eq_nil_iff.1 (List.append_eq_nil_iff.1 hflatten).1).2
      exact absurd hbreak (by decide)
  induction ls generalizing ls' with
  | nil => exact (hnil h' heq.symm).symm
  | cons line ls ih =>
    cases ls' with
    | nil => exact hnil h heq
    | cons line' ls' =>
      obtain ⟨body, hbody, rfl⟩ := h _ List.mem_cons_self
      obtain ⟨body', hbody', rfl⟩ := h' _ List.mem_cons_self
      rw [List.flatten_cons, List.flatten_cons, List.append_assoc, List.append_assoc] at heq
      obtain ⟨rfl, hrest⟩ := eq_and_eq_of_append_cons hbody hbody' heq
      rw [ih (fun other hother => h other (List.mem_cons_of_mem _ hother))
        (fun other hother => h' other (List.mem_cons_of_mem _ hother)) hrest]

/-- Texts with at least one line break each that are as many as the line breaks in them. -/
theorem count_eq_one_of_flatten {blocks : List Text}
    (h : ∀ block ∈ blocks, 1 ≤ block.count (.scalar '\n'))
    (hcount : blocks.flatten.count (.scalar '\n') = blocks.length) :
    ∀ block ∈ blocks, block.count (.scalar '\n') = 1 := by
  have hle : ∀ {blocks : List Text}, (∀ block ∈ blocks, 1 ≤ block.count (.scalar '\n')) →
      blocks.length ≤ blocks.flatten.count (.scalar '\n') := by
    intro blocks hblocks
    induction blocks with
    | nil => exact Nat.le_refl _
    | cons block blocks ih =>
      have hfirst := hblocks block List.mem_cons_self
      have hrest := ih fun other hother => hblocks other (List.mem_cons_of_mem _ hother)
      rw [List.flatten_cons, List.count_append, List.length_cons]
      omega
  induction blocks with
  | nil => exact fun block hblock => absurd hblock List.not_mem_nil
  | cons block blocks ih =>
    have hbehind : ∀ other ∈ blocks, 1 ≤ other.count (.scalar '\n') :=
      fun other hother => h other (List.mem_cons_of_mem _ hother)
    have hfirst := h block List.mem_cons_self
    have hrest := hle hbehind
    rw [List.flatten_cons, List.count_append, List.length_cons] at hcount
    intro other hother
    obtain rfl | hother := List.mem_cons.1 hother
    · omega
    · exact ih hbehind (by omega) other hother

end Layout
end DashboardSynthesis
