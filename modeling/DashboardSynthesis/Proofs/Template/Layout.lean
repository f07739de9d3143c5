import DashboardSynthesis.Proofs.Json.RoundTrip
import DashboardSynthesis.Proofs.Json.StringBody
import DashboardSynthesis.Proofs.Template.Customize

/-!
# Templates laid out by hand

A template is laid out as its author liked it, so it is no printed value.  `objText` and `arrText` put
an object and a list together from the texts of their parts, whatever the layout of these is.  The outcome
spells the whole if these texts spell the parts (`spells_objText`, `spells_arrText`), and customizing it
customizes each of them (`becomes_objText`, `becomes_arrText`).

A plain text needs no escapes, so it may be inserted into a string as it is (`spells_inQuotes`).
-/

namespace DashboardSynthesis

/-! ## What a piece becomes -/

/-- Customizing replaces the piece `t` by `t'`, whatever follows. -/
def Becomes (value : Marker → Text) (t t' : Text) : Prop :=
  ∀ rest, customize value (t ++ rest) = t' ++ customize value rest

namespace Becomes

variable {value : Marker → Text} {t t' u u' : Text}

theorem refl (h : .scalar '$' ∉ t) : Becomes value t t := fun rest => customize_append value h rest

theorem marker (m : Marker) : Becomes value m.text (value m) := fun rest =>
  customize_marker value m rest

theorem append (h : Becomes value t t') (h' : Becomes value u u') :
    Becomes value (t ++ u) (t' ++ u') := by
  intro rest
  rw [List.append_assoc, h, h', List.append_assoc]

theorem cons {c : CodePoint} (hc : c ≠ .scalar '$') (h : Becomes value t t') :
    Becomes value (c :: t) (c :: t') := by
  intro rest
  rw [List.cons_append, customize_cons_of_ne value hc, h, List.cons_append]

theorem customize_eq (h : Becomes value t t') : customize value t = t' := by
  have hrest := h []
  rwa [List.append_nil, customize_nil, List.append_nil] at hrest

end Becomes

namespace Json

/-! ## Strings -/

theorem escape_of_not_isSpecial {c : CodePoint} (h : ¬ c.IsSpecial) : escape c = [c] := by
  unfold escape
  split
  case h_8 => exact if_neg fun hcontrol => h (.inr (.inr hcontrol))
  all_goals exact absurd (by decide) h

theorem flatMap_escape_of_isPlain {t : Text} (h : t.IsPlain) : t.flatMap escape = t := by
  induction t with
  | nil => rfl
  | cons c t ih =>
    rw [List.flatMap_cons, escape_of_not_isSpecial (h c List.mem_cons_self),
      ih fun d hd => h d (List.mem_cons_of_mem c hd)]
    rfl

/-- A text between quotes, as it is. -/
def inQuotes (raw : Text) : Text := .scalar '"' :: (raw ++ [.scalar '"'])

theorem spells_inQuotes {raw s : Text} (h : s.flatMap escape = raw) : Spells (inQuotes raw) (.str s) := by
  rw [← h]
  exact spells_str s

/-! ## Lists -/

/-- Items on one line, up to the closing bracket, with `closing` in front of it. -/
def itemsText (closing : Text) : List Text → Text
  | [] => []
  | [t] => t ++ (closing ++ [.scalar ']'])
  | t :: items => t ++ ([] ++ (.scalar ',' :: ([.scalar ' '] ++ itemsText closing items)))

/-- A list whose items have the given texts, with blanks inside the brackets. -/
def arrText (opening closing : Text) (items : List Text) : Text :=
  .scalar '[' :: (opening ++ itemsText closing items)

theorem spellsItems_itemsText {closing : Text} (hclosing : IsBlanks closing) {texts : List Text}
    {items : List Json} (h : List.Forall₂ Spells texts items) (hne : texts ≠ []) :
    SpellsItems (itemsText closing texts) items := by
  induction h with
  | nil => exact absurd rfl hne
  | cons hspells hrest ih =>
    cases hrest with
    | nil => exact .single hspells hclosing
    | cons _ _ => exact .cons hspells isBlanks_nil isBlanks_space (ih (List.cons_ne_nil _ _))

/-- **A list is spelled by the texts of its items.** -/
theorem spells_arrText {opening closing : Text} (hopening : IsBlanks opening)
    (hclosing : IsBlanks closing) {texts : List Text} {items : List Json}
    (h : List.Forall₂ Spells texts items) (hne : texts ≠ []) :
    Spells (arrText opening closing texts) (.arr items) :=
  spells_arr hopening (spellsItems_itemsText hclosing h hne)

/-! ## Objects -/

/-- The line break in front of a level of nesting. -/
def newLine (level : ℕ) : Text := (Layout.indented 2).lineBreak level

theorem isBlanks_newLine (level : ℕ) : IsBlanks (newLine level) := Layout.isBlanks_lineBreak _ level

/-- Members, each on a line of its own, up to the closing brace of the object. -/
def membersText (level : ℕ) : List (Text × Text) → Text
  | [] => []
  | [(key, t)] => memberText key [] [.scalar ' '] (t ++ (newLine level ++ [.scalar '}']))
  | (key, t) :: members =>
    memberText key [] [.scalar ' ']
      (t ++ ([] ++ (.scalar ',' :: (newLine (level + 1) ++ membersText level members))))

/-- An object whose values have the given texts. -/
def objText (level : ℕ) (members : List (Text × Text)) : Text :=
  .scalar '{' :: (newLine (level + 1) ++ membersText level members)

theorem spellsMembers_membersText (level : ℕ) {texts : List (Text × Text)} {members : Members}
    (h : List.Forall₂ (fun t m => t.1 = m.1 ∧ Spells t.2 m.2) texts members) (hne : texts ≠ []) :
    SpellsMembers (membersText level texts) members := by
  induction h with
  | nil => exact absurd rfl hne
  | @cons t m texts members htm hrest ih =>
    obtain ⟨key, text⟩ := t
    obtain ⟨key', v⟩ := m
    obtain ⟨rfl, hspells⟩ := htm
    cases hrest with
    | nil => exact .single key isBlanks_nil isBlanks_space hspells (isBlanks_newLine level)
    | cons htm' hrest' =>
      exact .cons key isBlanks_nil isBlanks_space hspells isBlanks_nil (isBlanks_newLine (level + 1))
        (ih (List.cons_ne_nil _ _))

/-- **An object is spelled by the texts of its values.** -/
theorem spells_objText (level : ℕ) {texts : List (Text × Text)} {members : Members}
    (h : List.Forall₂ (fun t m => t.1 = m.1 ∧ Spells t.2 m.2) texts members) (hne : texts ≠ [])
    (hnodup : members.keys.Nodup) : Spells (objText level texts) (.obj members) :=
  spells_obj (isBlanks_newLine (level + 1)) (spellsMembers_membersText level h hne) hnodup

theorem dollar_not_mem_newLine (level : ℕ) : CodePoint.scalar '$' ∉ newLine level := by
  intro hmem
  rcases List.mem_cons.1 hmem with h | h
  · exact absurd h (by decide)
  · exact absurd (List.eq_of_mem_replicate h) (by decide)

variable {value : Marker → Text}

theorem becomes_inQuotes {t t' : Text} (h : Becomes value t t') :
    Becomes value (inQuotes t) (inQuotes t') :=
  .cons (by decide) (h.append (.refl (by decide)))

theorem becomes_itemsText {closing : Text} (hclosing : .scalar '$' ∉ closing)
    {texts texts' : List Text} (h : List.Forall₂ (Becomes value) texts texts') :
    Becomes value (itemsText closing texts) (itemsText closing texts') := by
  induction h with
  | nil => exact fun _ => rfl
  | cons htext hrest ih =>
    cases hrest with
    | nil => exact htext.append (.append (.refl hclosing) (.refl (by decide)))
    | cons _ _ => exact htext.append (.cons (by decide) (.cons (by decide) ih))

/-- **Customizing a list customizes its items.** -/
theorem becomes_arrText {opening closing : Text} (hopening : .scalar '$' ∉ opening)
    (hclosing : .scalar '$' ∉ closing) {texts texts' : List Text}
    (h : List.Forall₂ (Becomes value) texts texts') :
    Becomes value (arrText opening closing texts) (arrText opening closing texts') :=
  .cons (by decide) (.append (.refl hopening) (becomes_itemsText hclosing h))

theorem becomes_memberText {key t t' : Text} (hkey : .scalar '$' ∉ quote key)
    (h : Becomes value t t') :
    Becomes value (memberText key [] [.scalar ' '] t) (memberText key [] [.scalar ' '] t') :=
  .append (.refl hkey) (.cons (by decide) (.cons (by decide) h))

theorem becomes_membersText (level : ℕ) {texts texts' : List (Text × Text)}
    (h : List.Forall₂ (fun t t' => .scalar '$' ∉ quote t.1 ∧ t.1 = t'.1 ∧ Becomes value t.2 t'.2)
      texts texts') : Becomes value (membersText level texts) (membersText level texts') := by
  induction h with
  | nil => exact fun _ => rfl
  | @cons t t' texts texts' htt' hrest ih =>
    obtain ⟨key, text⟩ := t
    obtain ⟨key', text'⟩ := t'
    obtain ⟨hkey, rfl, htext⟩ := htt'
    have hline : ∀ n, Becomes value (newLine n) (newLine n) := fun n =>
      .refl (dollar_not_mem_newLine n)
    cases hrest with
    | nil =>
      exact becomes_memberText hkey
        (htext.append ((hline level).append (.refl (by decide))))
    | cons htt' hrest' =>
      exact becomes_memberText hkey
        (htext.append (.cons (by decide) ((hline (level + 1)).append ih)))

/-- **Customizing an object customizes its values.** -/
theorem becomes_objText (level : ℕ) {texts texts' : List (Text × Text)}
    (h : List.Forall₂ (fun t t' => .scalar '$' ∉ quote t.1 ∧ t.1 = t'.1 ∧ Becomes value t.2 t'.2)
      texts texts') : Becomes value (objText level texts) (objText level texts') :=
  .cons (by decide) (.append (.refl (dollar_not_mem_newLine _)) (becomes_membersText level h))

end Json
end DashboardSynthesis
