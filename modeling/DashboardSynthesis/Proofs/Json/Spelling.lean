import DashboardSynthesis.Proofs.Json.Number
import DashboardSynthesis.Proofs.Json.Parts
import DashboardSynthesis.Proofs.Json.String
import DashboardSynthesis.Proofs.Outcome

/-!
# Texts that spell values

`Spells t v` says that the reader takes `t` for the value `v`, whatever follows, if only a value may
end there.  There is one lemma for each kind of value, and the lemmas for lists and objects allow any
blanks where the reader allows them.  So a text whose parts spell values can be put together without
running the reader, and `read_of_spells` runs it once, at the end.

## Supplies

The reader is given twice the length of the text, which is more than enough.  The bound that is carried
through the parts is that twice the length of a part suffices for it: a list or an object needs two
calls for each of its parts, and each part has a delimiter of its own.
-/

namespace DashboardSynthesis
namespace Json

/-! ## Blanks and what follows -/

/-- A text of blanks only. -/
def IsBlanks (t : Text) : Prop := ∀ c ∈ t, isBlank c = true

theorem isBlanks_nil : IsBlanks [] := fun _ hc => absurd hc List.not_mem_nil

theorem skipBlanks_append {b : Text} (hb : IsBlanks b) (t : Text) :
    skipBlanks (b ++ t) = skipBlanks t := List.dropWhile_append_of_pos hb

theorem skipBlanks_cons {c : CodePoint} (hc : isBlank c = false) (t : Text) :
    skipBlanks (c :: t) = c :: t := by
  rw [skipBlanks, List.dropWhile_cons, hc, if_neg Bool.false_ne_true]

theorem skipBlanks_append_cons {b : Text} (hb : IsBlanks b) {c : CodePoint} (hc : isBlank c = false)
    (t : Text) : skipBlanks (b ++ c :: t) = c :: t := by
  rw [skipBlanks_append hb, skipBlanks_cons hc]

/-- A value may end in front of this text. -/
def EndsValue (t : Text) : Prop :=
  ∀ c, t.head? = some c →
    isBlank c = true ∨ c = .scalar ',' ∨ c = .scalar ']' ∨ c = .scalar '}'

theorem EndsValue.endsNumber {t : Text} (h : EndsValue t) : EndsNumber t := by
  intro c hc
  have hcases : c = .scalar ' ' ∨ c = .scalar '\t' ∨ c = .scalar '\n' ∨ c = .scalar '\r' ∨
      c = .scalar ',' ∨ c = .scalar ']' ∨ c = .scalar '}' := by
    have := h c hc
    simpa [isBlank, or_assoc] using this
  rcases hcases with rfl | rfl | rfl | rfl | rfl | rfl | rfl <;>
    exact ⟨rfl, by decide, by decide, by decide⟩

theorem endsValue_append_cons {b : Text} (hb : IsBlanks b) {c : CodePoint}
    (hc : c = .scalar ',' ∨ c = .scalar ']' ∨ c = .scalar '}') (t : Text) :
    EndsValue (b ++ c :: t) := by
  intro d hd
  rcases b with _ | ⟨a, b⟩
  · rw [List.nil_append, List.head?_cons, Option.some_inj] at hd
    rw [← hd]
    exact Or.inr hc
  · rw [List.cons_append, List.head?_cons, Option.some_inj] at hd
    rw [← hd]
    exact Or.inl (hb a List.mem_cons_self)

theorem endsValue_of_isBlanks {b : Text} (hb : IsBlanks b) : EndsValue b := fun c hc =>
  Or.inl (hb c (List.mem_of_head? hc))

/-! ## Spelling -/

/-- A code point with which a value may start: not a blank, and nothing that ends a list or marks the
order of bytes. -/
def StartsValue (c : CodePoint) : Prop :=
  isBlank c = false ∧ c ≠ .scalar ']' ∧ c ≠ .scalar '\ufeff'

/-- The text is read as the value. -/
structure Spells (t : Text) (v : Json) : Prop where
  starts : ∃ c rest, t = c :: rest ∧ StartsValue c
  reads : ∀ (supply depth : ℕ) (rest : Text), 2 * t.length ≤ supply → v.depth ≤ depth →
    EndsValue rest → readValue supply depth (t ++ rest) = .ok (v, rest)

/-- The text, up to the closing bracket, is read as the items of a list. -/
structure SpellsItems (t : Text) (items : List Json) : Prop where
  starts : ∃ c rest, t = c :: rest ∧ StartsValue c
  reads : ∀ (supply depth : ℕ) (rest : Text), 2 * t.length ≤ supply → itemsDepth items ≤ depth →
    readItems supply depth (t ++ rest) = .ok (items, rest)

/-- The text, up to the closing brace, is read as the members of an object. -/
structure SpellsMembers (t : Text) (members : Members) : Prop where
  starts : ∃ rest, t = .scalar '"' :: rest
  reads : ∀ (supply depth : ℕ) (before : Members) (rest : Text), 2 * t.length ≤ supply →
    membersDepth members ≤ depth → (before ++ members).keys.Nodup →
    readMembers supply depth before (t ++ rest) = .ok (before ++ members, rest)

/-! ## Values without parts -/

theorem readValue_of_head {c : CodePoint} (h1 : c ≠ .scalar '"') (h2 : c ≠ .scalar '[')
    (h3 : c ≠ .scalar '{') (supply depth : ℕ) (t : Text) :
    readValue (supply + 1) depth (c :: t) = readAtom (c :: t) := by
  rw [readValue.eq_def]
  dsimp only
  split
  · next heq => exact absurd (List.cons.inj heq).1 h1
  · next heq => exact absurd (List.cons.inj heq).1 h2
  · next heq => exact absurd (List.cons.inj heq).1 h3
  · rfl

/-- What is read as an atom, and starts like one, is spelled so. -/
theorem spells_of_readAtom {c : CodePoint} {t : Text} {v : Json} (hstart : StartsValue c)
    (h1 : c ≠ .scalar '"') (h2 : c ≠ .scalar '[') (h3 : c ≠ .scalar '{')
    (hread : ∀ rest, EndsValue rest → readAtom (c :: t ++ rest) = .ok (v, rest)) :
    Spells (c :: t) v := by
  refine ⟨⟨c, t, rfl, hstart⟩, ?_⟩
  intro supply depth rest hsupply _ hrest
  obtain ⟨supply, rfl⟩ : ∃ n, supply = n + 1 :=
    ⟨supply - 1, by rw [List.length_cons] at hsupply; omega⟩
  rw [List.cons_append, readValue_of_head h1 h2 h3, ← List.cons_append, hread rest hrest]

theorem spells_null : Spells "null" .null :=
  spells_of_readAtom (c := .scalar 'n') ⟨rfl, by decide, by decide⟩ (by decide) (by decide) (by decide)
    fun _ _ => rfl

theorem spells_bool (b : Bool) : Spells (if b then "true" else "false" : Text) (.bool b) := by
  cases b with
  | true =>
    exact spells_of_readAtom (c := .scalar 't') ⟨rfl, by decide, by decide⟩ (by decide) (by decide)
      (by decide) fun _ _ => rfl
  | false =>
    exact spells_of_readAtom (c := .scalar 'f') ⟨rfl, by decide, by decide⟩ (by decide) (by decide)
      (by decide) fun _ _ => rfl

theorem spells_of_startsNumber {t : Text} {v : Json} (hstart : StartsNumber t)
    (hread : ∀ rest, EndsValue rest → readAtom (t ++ rest) = .ok (v, rest)) : Spells t v := by
  obtain ⟨negative, c, rest, rfl, hc⟩ := hstart
  cases negative with
  | true =>
    exact spells_of_readAtom ⟨rfl, by decide, by decide⟩ (by decide) (by decide) (by decide) hread
  | false =>
    have hne : ∀ d, (CodePoint.scalar d).isDigit = false → c ≠ CodePoint.scalar d := fun d hd =>
      CodePoint.ne_of_isDigit hc hd
    have hblank : isBlank c = false := by
      simp [isBlank, hne ' ' rfl, hne '\t' rfl, hne '\n' rfl, hne '\r' rfl]
    exact spells_of_readAtom ⟨hblank, hne _ rfl, hne _ rfl⟩ (hne _ rfl) (hne _ rfl) (hne _ rfl) hread

theorem spells_int {n : ℤ} (hn : (Json.int n).isPrintable = true) : Spells (Text.ofInt n) (.int n) :=
  spells_of_startsNumber (by simpa using startsNumber_ofInt n []) fun _ hrest =>
    readAtom_ofInt hn hrest.endsNumber

theorem spells_float {x : Binary64} (h : x.IsCanonical) :
    Spells (Shortest.text floatNames x) (.float x) := by
  have hread : ∀ rest, EndsValue rest →
      readAtom (Shortest.text floatNames x ++ rest) = .ok (.float x, rest) := fun _ hrest =>
    readAtom_floatText h hrest.endsNumber
  cases x with
  | nan =>
    exact spells_of_readAtom (c := .scalar 'N') ⟨rfl, by decide, by decide⟩ (by decide) (by decide)
      (by decide) hread
  | infinite negative =>
    cases negative with
    | true =>
      exact spells_of_readAtom (c := .scalar '-') ⟨rfl, by decide, by decide⟩ (by decide) (by decide)
        (by decide) hread
    | false =>
      exact spells_of_readAtom (c := .scalar 'I') ⟨rfl, by decide, by decide⟩ (by decide) (by decide)
        (by decide) hread
  | finite negative significand e =>
    exact spells_of_startsNumber (by simpa using startsNumber_finite h []) hread

theorem quote_append (s rest : Text) :
    quote s ++ rest = .scalar '"' :: (s.flatMap escape ++ (.scalar '"' :: rest)) := by
  rw [quote, List.append_assoc]
  rfl

theorem spells_str (s : Text) : Spells (quote s) (.str s) := by
  refine ⟨⟨_, _, rfl, rfl, by decide, by decide⟩, ?_⟩
  intro supply depth rest hsupply _ _
  obtain ⟨supply, rfl⟩ : ∃ n, supply = n + 1 :=
    ⟨supply - 1, by rw [quote] at hsupply; simp at hsupply; omega⟩
  rw [quote_append, readValue, readString_escape]
  rfl

/-! ## Lists -/

section Steps

variable {supply depth : ℕ} {t rest after : Text} {v : Json}

theorem readItems_last (hread : readValue supply depth t = .ok (v, rest))
    (hskip : skipBlanks rest = .scalar ']' :: after) :
    readItems (supply + 1) depth t = .ok ([v], after) := by
  rw [readItems]
  refine (bind_of_eq_ok hread _).trans ?_
  dsimp only
  rw [hskip]
  rfl

theorem readItems_more (hread : readValue supply depth t = .ok (v, rest))
    (hskip : skipBlanks rest = .scalar ',' :: after) :
    readItems (supply + 1) depth t =
      (readItems supply depth (skipBlanks after)).map fun p => (v :: p.1, p.2) := by
  rw [readItems]
  refine (bind_of_eq_ok hread _).trans ?_
  dsimp only
  rw [hskip]
  rfl

/-- A member is read up to what follows its value. -/
theorem readMembers_member {before : Members} {key colon : Text}
    (hkey : readString t = .ok (key, colon)) {behind : Text}
    (hcolon : skipBlanks colon = .scalar ':' :: behind)
    (hread : readValue supply depth (skipBlanks behind) = .ok (v, rest)) :
    readMembers (supply + 1) depth before (.scalar '"' :: t) =
      match skipBlanks rest with
      | .scalar '}' :: after => pure (before.set key v, after)
      | .scalar ',' :: after => readMembers supply depth (before.set key v) (skipBlanks after)
      | other => malformed .noComma other := by
  rw [readMembers]
  refine (bind_of_eq_ok hkey _).trans ?_
  dsimp only
  rw [hcolon]
  exact bind_of_eq_ok hread _

end Steps

theorem SpellsItems.single {t : Text} {v : Json} (h : Spells t v) {b : Text} (hb : IsBlanks b) :
    SpellsItems (t ++ (b ++ [.scalar ']'])) [v] := by
  obtain ⟨c, u, rfl, hc⟩ := h.starts
  refine ⟨⟨c, _, rfl, hc⟩, ?_⟩
  intro supply depth rest hsupply hdepth
  simp only [List.length_append, List.length_cons, List.length_nil] at hsupply
  obtain ⟨supply, rfl⟩ : ∃ n, supply = n + 1 := ⟨supply - 1, by omega⟩
  have htext : c :: u ++ (b ++ [.scalar ']']) ++ rest = c :: u ++ (b ++ .scalar ']' :: rest) := by
    simp
  have hread := h.reads supply depth (b ++ .scalar ']' :: rest)
    (by rw [List.length_cons]; omega) (by simpa [itemsDepth] using hdepth)
    (endsValue_append_cons hb (Or.inr (Or.inl rfl)) rest)
  rw [htext, readItems_last hread (skipBlanks_append_cons hb rfl rest)]

theorem SpellsItems.cons {t t' : Text} {v : Json} {items : List Json} (h : Spells t v) {b b' : Text}
    (hb : IsBlanks b) (hb' : IsBlanks b') (h' : SpellsItems t' items) :
    SpellsItems (t ++ (b ++ (.scalar ',' :: (b' ++ t')))) (v :: items) := by
  obtain ⟨c, u, rfl, hc⟩ := h.starts
  obtain ⟨c', u', rfl, hc'⟩ := h'.starts
  refine ⟨⟨c, _, rfl, hc⟩, ?_⟩
  intro supply depth rest hsupply hdepth
  rw [itemsDepth] at hdepth
  simp only [List.length_append, List.length_cons] at hsupply
  obtain ⟨supply, rfl⟩ : ∃ n, supply = n + 1 := ⟨supply - 1, by omega⟩
  have htext : c :: u ++ (b ++ .scalar ',' :: (b' ++ c' :: u')) ++ rest =
      c :: u ++ (b ++ .scalar ',' :: (b' ++ c' :: (u' ++ rest))) := by simp
  have hread := h.reads supply depth (b ++ .scalar ',' :: (b' ++ c' :: (u' ++ rest)))
    (by rw [List.length_cons]; omega) (by omega) (endsValue_append_cons hb (Or.inl rfl) _)
  have hrest := h'.reads supply depth rest
    (by rw [List.length_cons]; omega) (by omega)
  rw [htext, readItems_more hread (skipBlanks_append_cons hb rfl _),
    skipBlanks_append_cons hb' hc'.1, ← List.cons_append, hrest]
  rfl

theorem spells_arr_nil : Spells "[]" (.arr []) := by
  refine ⟨⟨_, _, rfl, rfl, by decide, by decide⟩, ?_⟩
  intro supply depth rest hsupply hdepth _
  obtain ⟨supply, rfl⟩ : ∃ n, supply = n + 1 :=
    ⟨supply - 1, by simp [Text.ofString] at hsupply; omega⟩
  obtain ⟨depth, rfl⟩ : ∃ n, depth = n + 1 := ⟨depth - 1, by rw [Json.depth] at hdepth; omega⟩
  rfl

theorem spells_arr {t : Text} {items : List Json} {b : Text} (hb : IsBlanks b)
    (h : SpellsItems t items) : Spells (.scalar '[' :: (b ++ t)) (.arr items) := by
  refine ⟨⟨_, _, rfl, rfl, by decide, by decide⟩, ?_⟩
  obtain ⟨c, u, rfl, hc⟩ := h.starts
  intro supply depth rest hsupply hdepth _
  rw [Json.depth] at hdepth
  simp only [List.length_append, List.length_cons] at hsupply
  obtain ⟨supply, rfl⟩ : ∃ n, supply = n + 1 := ⟨supply - 1, by omega⟩
  obtain ⟨depth, rfl⟩ : ∃ n, depth = n + 1 := ⟨depth - 1, by omega⟩
  have hread := h.reads supply depth rest
    (by rw [List.length_cons]; omega) (by omega)
  rw [List.cons_append, List.append_assoc, readValue]
  dsimp only
  rw [List.cons_append, skipBlanks_append_cons hb hc.1]
  split
  · next heq => exact absurd (List.cons.inj heq).1 hc.2.1
  · rw [← List.cons_append, hread]
    rfl

/-! ## Objects -/

/-- The text of a member whose value starts `t`. -/
def memberText (key b₁ b₂ t : Text) : Text := quote key ++ (b₁ ++ (.scalar ':' :: (b₂ ++ t)))

theorem memberText_append (key b₁ b₂ t rest : Text) :
    memberText key b₁ b₂ t ++ rest = .scalar '"' ::
      (key.flatMap escape ++ (.scalar '"' :: (b₁ ++ (.scalar ':' :: (b₂ ++ (t ++ rest)))))) := by
  rw [memberText, List.append_assoc, quote_append]
  simp

theorem length_memberText (key b₁ b₂ t : Text) : t.length + 3 ≤ (memberText key b₁ b₂ t).length := by
  have hquote : (("\"" : Text)).length = 1 := rfl
  rw [memberText, quote]
  simp only [List.length_append, List.length_cons, hquote]
  omega

theorem SpellsMembers.single (key : Text) {t : Text} {v : Json} {b₁ b₂ b₃ : Text} (hb₁ : IsBlanks b₁)
    (hb₂ : IsBlanks b₂) (h : Spells t v) (hb₃ : IsBlanks b₃) :
    SpellsMembers (memberText key b₁ b₂ (t ++ (b₃ ++ [.scalar '}']))) [(key, v)] := by
  obtain ⟨c, u, rfl, hc⟩ := h.starts
  refine ⟨⟨_, rfl⟩, ?_⟩
  intro supply depth before rest hsupply hdepth hnodup
  have hlength := length_memberText key b₁ b₂ (c :: u ++ (b₃ ++ [.scalar '}']))
  simp only [List.length_append, List.length_cons] at hlength
  obtain ⟨supply, rfl⟩ : ∃ n, supply = n + 1 := ⟨supply - 1, by omega⟩
  have hread := h.reads supply depth (b₃ ++ .scalar '}' :: rest)
    (by rw [List.length_cons]; omega) (by simpa [membersDepth] using hdepth)
    (endsValue_append_cons hb₃ (Or.inr (Or.inr rfl)) rest)
  have hvalue : skipBlanks (b₂ ++ (c :: u ++ (b₃ ++ [.scalar '}']) ++ rest)) =
      c :: u ++ (b₃ ++ .scalar '}' :: rest) := by
    rw [skipBlanks_append hb₂]
    simp only [List.cons_append, List.append_assoc, List.nil_append]
    exact skipBlanks_cons hc.1 _
  have hnew : key ∉ before.keys := by
    rw [Members.keys, List.map_append, List.nodup_append] at hnodup
    exact fun hmem => hnodup.2.2 key hmem key List.mem_cons_self rfl
  rw [memberText_append, readMembers_member (readString_escape key _)
    (skipBlanks_append_cons hb₁ rfl _) (by rw [hvalue]; exact hread),
    skipBlanks_append_cons hb₃ rfl, Members.set_of_not_mem hnew]
  rfl

theorem SpellsMembers.cons (key : Text) {t t' : Text} {v : Json} {members : Members} {b₁ b₂ b₃ b₄ : Text}
    (hb₁ : IsBlanks b₁) (hb₂ : IsBlanks b₂) (h : Spells t v) (hb₃ : IsBlanks b₃)
    (hb₄ : IsBlanks b₄) (h' : SpellsMembers t' members) :
    SpellsMembers (memberText key b₁ b₂ (t ++ (b₃ ++ (.scalar ',' :: (b₄ ++ t')))))
      ((key, v) :: members) := by
  obtain ⟨c, u, rfl, hc⟩ := h.starts
  obtain ⟨u', rfl⟩ := h'.starts
  refine ⟨⟨_, rfl⟩, ?_⟩
  intro supply depth before rest hsupply hdepth hnodup
  rw [membersDepth] at hdepth
  have hlength := length_memberText key b₁ b₂
    (c :: u ++ (b₃ ++ (.scalar ',' :: (b₄ ++ .scalar '"' :: u'))))
  simp only [List.length_append, List.length_cons] at hlength
  obtain ⟨supply, rfl⟩ : ∃ n, supply = n + 1 := ⟨supply - 1, by omega⟩
  have hread := h.reads supply depth (b₃ ++ .scalar ',' :: (b₄ ++ .scalar '"' :: (u' ++ rest)))
    (by rw [List.length_cons]; omega) (by omega)
    (endsValue_append_cons hb₃ (Or.inl rfl) _)
  have hvalue : skipBlanks (b₂ ++
      (c :: u ++ (b₃ ++ (.scalar ',' :: (b₄ ++ .scalar '"' :: u'))) ++ rest)) =
      c :: u ++ (b₃ ++ .scalar ',' :: (b₄ ++ .scalar '"' :: (u' ++ rest))) := by
    rw [skipBlanks_append hb₂]
    simp only [List.cons_append, List.append_assoc]
    exact skipBlanks_cons hc.1 _
  have hsplit : before ++ (key, v) :: members = before ++ [(key, v)] ++ members := by simp
  have hnew : key ∉ before.keys := by
    rw [Members.keys, List.map_append, List.nodup_append] at hnodup
    exact fun hmem => hnodup.2.2 key hmem key List.mem_cons_self rfl
  have hrest := h'.reads supply depth (before ++ [(key, v)]) rest
    (by rw [List.length_cons]; omega) (by omega) (by rw [← hsplit]; exact hnodup)
  rw [memberText_append, readMembers_member (readString_escape key _)
    (skipBlanks_append_cons hb₁ rfl _) (by rw [hvalue]; exact hread),
    skipBlanks_append_cons hb₃ rfl, Members.set_of_not_mem hnew]
  show readMembers supply depth _ (skipBlanks (b₄ ++ .scalar '"' :: (u' ++ rest))) = _
  rw [skipBlanks_append_cons hb₄ rfl, ← List.cons_append, hrest, hsplit]

theorem spells_obj_nil : Spells "\x7b\x7d" (.obj []) := by
  refine ⟨⟨_, _, rfl, rfl, by decide, by decide⟩, ?_⟩
  intro supply depth rest hsupply hdepth _
  obtain ⟨supply, rfl⟩ : ∃ n, supply = n + 1 :=
    ⟨supply - 1, by simp [Text.ofString] at hsupply; omega⟩
  obtain ⟨depth, rfl⟩ : ∃ n, depth = n + 1 := ⟨depth - 1, by rw [Json.depth] at hdepth; omega⟩
  rfl

theorem spells_obj {t : Text} {members : Members} {b : Text} (hb : IsBlanks b)
    (h : SpellsMembers t members) (hnodup : members.keys.Nodup) :
    Spells (.scalar '{' :: (b ++ t)) (.obj members) := by
  refine ⟨⟨_, _, rfl, rfl, by decide, by decide⟩, ?_⟩
  obtain ⟨u, rfl⟩ := h.starts
  intro supply depth rest hsupply hdepth _
  rw [Json.depth] at hdepth
  simp only [List.length_append, List.length_cons] at hsupply
  obtain ⟨supply, rfl⟩ : ∃ n, supply = n + 1 := ⟨supply - 1, by omega⟩
  obtain ⟨depth, rfl⟩ : ∃ n, depth = n + 1 := ⟨depth - 1, by omega⟩
  have hread := h.reads supply depth [] rest
    (by rw [List.length_cons]; omega) (by omega) hnodup
  rw [List.cons_append, List.append_assoc, readValue]
  dsimp only
  rw [List.cons_append, skipBlanks_append_cons hb rfl]
  split
  · next heq => exact absurd (List.cons.inj heq).1 (by decide)
  · rw [← List.cons_append, hread]
    rfl

/-! ## Whole texts -/

/-- **A text that spells a value is read as the value.**  Blanks may follow it. -/
theorem read_of_spells {t : Text} {v : Json} {b : Text} (h : Spells t v)
    (hdepth : v.depth ≤ nestingLimit) (hb : IsBlanks b) : read (t ++ b) = .ok v := by
  obtain ⟨c, u, rfl, hc⟩ := h.starts
  have hread := h.reads (2 * (c :: u ++ b).length + 2) nestingLimit b
    (by rw [List.length_append]; omega) hdepth (endsValue_of_isBlanks hb)
  have hblanks : skipBlanks b = [] := by
    have := skipBlanks_append hb []
    rwa [List.append_nil] at this
  rw [read.eq_def]
  split
  · next heq => exact absurd (List.cons.inj heq).1 hc.2.2
  · rw [List.cons_append, skipBlanks_cons hc.1, ← List.cons_append]
    refine (bind_of_eq_ok hread _).trans ?_
    dsimp only
    rw [hblanks]
    rfl

end Json
end DashboardSynthesis
