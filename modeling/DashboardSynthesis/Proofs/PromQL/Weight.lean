import DashboardSynthesis.Proofs.Json.StringBody
import DashboardSynthesis.Proofs.PromQL.Selector

/-!
# The weight of a selector

A literal takes up at least as much room as the text that it denotes, and this stays so when the query is
put into a JSON string, where its quotes and backslashes have to be escaped once more.  So the weight of
a selector is bounded from below by the weights of the names that are read from it
(`weight_of_readSelector?`).
-/

namespace DashboardSynthesis
namespace PromQL

theorem weight_of_readQuotedBody? {t value rest : Text} (h : readQuotedBody? t = some (value, rest)) :
    value.weight + 2 + rest.weight ≤ t.weight := by
  have hquote : CodePoint.weight (.scalar '"') = 2 := rfl
  have hslash : CodePoint.weight (.scalar '\\') = 2 := rfl
  fun_induction readQuotedBody? t generalizing value rest with
  | case1 => exact absurd h (by simp)
  | case2 t =>
    obtain ⟨rfl, rfl⟩ := Prod.mk.inj (Option.some_inj.1 h)
    rw [Text.weight_cons, Text.weight_nil, hquote, zero_add]
  | case3 => exact absurd h (by simp)
  | case4 e t ih =>
    obtain ⟨c, -, h⟩ := Option.bind_eq_some_iff.1 h
    obtain ⟨⟨more, after⟩, hread, h⟩ := Option.bind_eq_some_iff.1 h
    obtain ⟨rfl, rfl⟩ := Prod.mk.inj (Option.some_inj.1 h)
    have hc := c.weight_le_two
    have hrest := ih hread
    simp only [Text.weight_cons, hslash]
    omega
  | case5 c t _ _ _ ih =>
    obtain ⟨⟨more, after⟩, hread, h⟩ := Option.bind_eq_some_iff.1 h
    obtain ⟨rfl, rfl⟩ := Prod.mk.inj (Option.some_inj.1 h)
    have hrest := ih hread
    simp only [Text.weight_cons]
    omega

/-- A literal in quotes, each of which has to be escaped. -/
theorem weight_of_readQuoted? {t value rest : Text} (h : readQuoted? t = some (value, rest)) :
    .scalar '"' ∈ t ∧ value.weight + 4 + rest.weight ≤ t.weight := by
  have hquote : CodePoint.weight (.scalar '"') = 2 := rfl
  rw [readQuoted?.eq_def] at h
  split at h
  · next body =>
    have hbody := weight_of_readQuotedBody? h
    rw [Text.weight_cons, hquote]
    exact ⟨List.mem_cons_self, by omega⟩
  · exact absurd h (by simp)

theorem eq_append_of_readLabel? {t label rest : Text} (h : readLabel? t = some (label, rest)) :
    t = label ++ rest := by
  rw [readLabel?.eq_def] at h
  split at h
  · split_ifs at h
    obtain ⟨rfl, rfl⟩ := Prod.mk.inj (Option.some_inj.1 h)
    exact (List.takeWhile_append_dropWhile ..).symm
  · exact absurd h (by simp)

/-- The least room that labels take up between the braces of a selector: for each of them its name, an
equals sign, the value in quotes, and what separates it from the next one. -/
def labelsWeight : List (Text × Text) → ℕ
  | [] => 0
  | l :: labels => l.1.weight + l.2.weight + 6 + labelsWeight labels

theorem weight_of_readMatchers? {supply : ℕ} {t rest : Text} {labels : List (Text × Text)}
    (h : readMatchers? supply t = some (labels, rest)) :
    .scalar '"' ∈ t ∧ labelsWeight labels + rest.weight ≤ t.weight := by
  induction supply generalizing t labels rest with
  | zero => exact absurd h (by simp [readMatchers?])
  | succ supply ih =>
    rw [readMatchers?] at h
    obtain ⟨⟨label, behind⟩, hlabel, h⟩ := Option.bind_eq_some_iff.1 h
    dsimp only at h
    split at h
    · next literal =>
      obtain ⟨⟨value, next⟩, hvalue, h⟩ := Option.bind_eq_some_iff.1 h
      obtain ⟨hmem, hweight⟩ := weight_of_readQuoted? hvalue
      have hequals : CodePoint.weight (.scalar '=') = 1 := rfl
      have hbrace : CodePoint.weight (.scalar '}') = 1 := rfl
      have hcomma : CodePoint.weight (.scalar ',') = 1 := rfl
      rw [eq_append_of_readLabel? hlabel]
      refine ⟨List.mem_append_right _ (List.mem_cons_of_mem _ hmem), ?_⟩
      rw [Text.weight_append, Text.weight_cons, hequals]
      dsimp only at h
      split at h
      · next after =>
        obtain ⟨rfl, rfl⟩ := Prod.mk.inj (Option.some_inj.1 h)
        rw [Text.weight_cons, hbrace] at hweight
        simp only [labelsWeight]
        omega
      · next after =>
        obtain ⟨⟨more, after'⟩, hmore, h⟩ := Option.bind_eq_some_iff.1 h
        obtain ⟨rfl, rfl⟩ := Prod.mk.inj (Option.some_inj.1 h)
        have hrest := (ih hmore).2
        rw [Text.weight_cons, hcomma] at hweight
        simp only [labelsWeight] at hrest ⊢
        omega
      · exact absurd h (by simp)
    · exact absurd h (by simp)

/-- **The room that a selector takes up.** -/
theorem weight_of_readSelector? {t metric : Text} {labels : List (Text × Text)} (hne : labels ≠ [])
    (h : readSelector? t = some (metric, labels)) :
    .scalar '"' ∈ t ∧ metric.weight + 1 + labelsWeight labels ≤ t.weight := by
  have hbrace : CodePoint.weight (.scalar '{') = 1 := rfl
  have hsplit : t = t.takeWhile (· ≠ .scalar '{') ++ t.dropWhile (· ≠ .scalar '{') :=
    (List.takeWhile_append_dropWhile ..).symm
  rw [readSelector?] at h
  split at h
  · exact absurd (Prod.mk.inj (Option.some_inj.1 h)).2.symm hne
  · next c inside hdrop =>
    obtain ⟨⟨labels', after⟩, hread, h⟩ := Option.bind_eq_some_iff.1 h
    dsimp only at h
    split_ifs at h
    obtain ⟨rfl, rfl⟩ := Prod.mk.inj (Option.some_inj.1 h)
    obtain ⟨hmem, hweight⟩ := weight_of_readMatchers? hread
    have hc : c = .scalar '{' := by
      have := List.head?_dropWhile_not (fun c => decide (c ≠ CodePoint.scalar '{')) t
      rw [hdrop] at this
      simpa using this
    rw [hdrop, hc] at hsplit
    refine ⟨?_, ?_⟩
    · rw [hsplit]
      exact List.mem_append_right _ (List.mem_cons_of_mem _ hmem)
    · have hsum := congrArg Text.weight hsplit
      rw [Text.weight_append, Text.weight_cons, hbrace] at hsum
      omega

end PromQL
end DashboardSynthesis
