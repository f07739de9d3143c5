import DashboardSynthesis.Decision.Registry
import Mathlib.Data.List.TakeWhile
import Mathlib.Data.Nat.Notation
import Mathlib.Tactic.SplitIfs

/-!
# Selectors read back

A selector is read the way a query is: the metric up to the brace, and then label by label, where the
value is a literal in quotes that ends at the first quote that is not escaped.  What `renderSelector`
writes is read as the metric and the labels that were meant, in order, whatever the values are
(`readSelector?_renderSelector`); so no value ends its literal early and reaches what stands behind it.

Queries put a selector into a fixed shape, and the shapes of the supported types are listed in
`standardShape?`.
-/

namespace DashboardSynthesis
namespace PromQL

/-! ## Literals -/

theorem readQuotedBody?_escape (c : CodePoint) (t : Text) :
    readQuotedBody? (escape c ++ t) = (readQuotedBody? t).map fun p => (c :: p.1, p.2) := by
  have hbind : ∀ d, (readQuotedBody? t >>= fun p => pure (d :: p.1, p.2)) =
      (readQuotedBody? t).map fun p => (d :: p.1, p.2) := by
    intro d
    cases readQuotedBody? t <;> rfl
  unfold escape
  split
  case h_4 hslash hquote hbreak =>
    rw [List.singleton_append, readQuotedBody?.eq_def, ← hbind]
    split
    · next heq => exact absurd heq (List.cons_ne_nil _ _)
    · next heq => exact absurd (List.cons.inj heq).1 hquote
    · next heq => exact absurd (List.cons.inj heq).1 hbreak
    · next heq => exact absurd (List.cons.inj heq).1 hslash
    · next heq =>
      obtain ⟨rfl, rfl⟩ := List.cons.inj heq
      rfl
  all_goals exact hbind _

/-- **A literal reads back.** -/
theorem readQuoted?_quoted (value rest : Text) :
    readQuoted? (quoted value ++ rest) = some (value, rest) := by
  have hbody : readQuotedBody? (value.flatMap escape ++ (.scalar '"' :: rest)) = some (value, rest) := by
    induction value with
    | nil => rfl
    | cons c value ih =>
      rw [List.flatMap_cons, List.append_assoc, readQuotedBody?_escape, ih]
      rfl
  have htext : quoted value ++ rest = .scalar '"' :: (value.flatMap escape ++ (.scalar '"' :: rest)) := by
    rw [quoted, List.append_assoc]
    rfl
  rw [htext]
  exact hbody

/-! ## Labels -/

/-- A code point of a label name, behind the first one. -/
def isLabelPart : CodePoint → Bool
  | .scalar c => c.isAlphanum || c = '_'
  | .surrogate _ => false

/-- The first code point of a label name. -/
def isLabelStart : CodePoint → Bool
  | .scalar c => c.isAlpha || c = '_'
  | .surrogate _ => false

/-- A label name: ASCII letters, digits and underscores, and no digit in front. -/
structure IsLabelName (t : Text) : Prop where
  starts : ∃ c, t.head? = some c ∧ isLabelStart c = true
  parts : ∀ c ∈ t, isLabelPart c = true

theorem isLabelName_iff {t : Text} :
    IsLabelName t ↔ t.head?.any isLabelStart = true ∧ ∀ c ∈ t, isLabelPart c = true := by
  rw [Option.any_eq_true]
  exact ⟨fun h => ⟨h.starts, h.parts⟩, fun h => ⟨h.1, h.2⟩⟩

instance (t : Text) : Decidable (IsLabelName t) := decidable_of_iff' _ isLabelName_iff

/-- Reads a label name at the start of a text. -/
def readLabel? (t : Text) : Option (Text × Text) :=
  match t with
  | c :: _ =>
    if isLabelStart c then some (t.takeWhile isLabelPart, t.dropWhile isLabelPart) else none
  | [] => none

/-- Reads labels with their values, up to the closing brace; there are at most as many as the supply
says. -/
def readMatchers? : (supply : ℕ) → Text → Option (List (Text × Text) × Text)
  | 0, _ => none
  | supply + 1, t => do
    let (label, rest) ← readLabel? t
    match rest with
    | .scalar '=' :: rest => do
      let (value, rest) ← readQuoted? rest
      match rest with
      | .scalar '}' :: after => pure ([(label, value)], after)
      | .scalar ',' :: rest => do
        let (more, after) ← readMatchers? supply rest
        pure ((label, value) :: more, after)
      | _ => none
    | _ => none

/-- Reads a selector: the metric, and the labels with the values that they are compared with. -/
def readSelector? (t : Text) : Option (Text × List (Text × Text)) :=
  match t.dropWhile (· ≠ .scalar '{') with
  | [] => some (t, [])
  | _ :: inside => do
    let (labels, after) ← readMatchers? inside.length inside
    if after = [] then pure (t.takeWhile (· ≠ .scalar '{'), labels) else none

/-- The matchers for labels and the values that are meant. -/
def matchersFor (labels : List (Text × Text)) : List Matcher :=
  labels.map fun l => ⟨l.1, quoted l.2⟩

/-! ## What is rendered reads back -/

theorem takeWhile_append_of_head {p : CodePoint → Bool} {a b : Text} (ha : ∀ c ∈ a, p c = true)
    (hb : ∀ c, b.head? = some c → p c = false) :
    (a ++ b).takeWhile p = a ∧ (a ++ b).dropWhile p = b := by
  rw [List.takeWhile_append_of_pos ha, List.dropWhile_append_of_pos ha]
  cases b with
  | nil => exact ⟨List.append_nil a, rfl⟩
  | cons c b =>
    have hc := hb c rfl
    rw [List.takeWhile_cons, List.dropWhile_cons, hc]
    exact ⟨List.append_nil a, rfl⟩

theorem readLabel?_append {label : Text} (h : IsLabelName label) {rest : Text}
    (hrest : ∀ c, rest.head? = some c → isLabelPart c = false) :
    readLabel? (label ++ rest) = some (label, rest) := by
  obtain ⟨⟨c, hhead, hstart⟩, hparts⟩ := h
  cases label with
  | nil => exact absurd hhead (by simp)
  | cons d label =>
    rw [List.head?_cons, Option.some_inj] at hhead
    subst hhead
    obtain ⟨htake, hdrop⟩ := takeWhile_append_of_head hparts hrest
    rw [readLabel?.eq_def]
    dsimp only [List.cons_append]
    rw [if_pos hstart, ← List.cons_append, htake, hdrop]

section Steps

variable {t label literal value rest : Text} (supply : ℕ)

theorem readMatchers?_last (hlabel : readLabel? t = some (label, .scalar '=' :: literal))
    (hvalue : readQuoted? literal = some (value, .scalar '}' :: rest)) :
    readMatchers? (supply + 1) t = some ([(label, value)], rest) := by
  rw [readMatchers?, hlabel]
  show (readQuoted? literal).bind _ = _
  rw [hvalue]
  rfl

theorem readMatchers?_more (hlabel : readLabel? t = some (label, .scalar '=' :: literal))
    (hvalue : readQuoted? literal = some (value, .scalar ',' :: rest)) :
    readMatchers? (supply + 1) t =
      (readMatchers? supply rest).map fun p => ((label, value) :: p.1, p.2) := by
  rw [readMatchers?, hlabel]
  show (readQuoted? literal).bind _ = _
  rw [hvalue]
  show (readMatchers? supply rest).bind _ = _
  cases readMatchers? supply rest <;> rfl

end Steps

/-- Labels as they stand between the braces, with what follows them. -/
def labelsText (labels : List (Text × Text)) (rest : Text) : Text :=
  Text.joinWith "," ((matchersFor labels).map Matcher.render) ++ rest

theorem readMatchers?_labelsText {labels : List (Text × Text)} (hne : labels ≠ [])
    (hlabels : ∀ l ∈ labels, IsLabelName l.1) (rest : Text) {supply : ℕ}
    (hsupply : labels.length ≤ supply) :
    readMatchers? supply (labelsText labels (.scalar '}' :: rest)) = some (labels, rest) := by
  induction labels generalizing supply with
  | nil => exact absurd rfl hne
  | cons l labels ih =>
    obtain ⟨label, value⟩ := l
    obtain ⟨supply, rfl⟩ : ∃ n, supply = n + 1 :=
      ⟨supply - 1, by rw [List.length_cons] at hsupply; omega⟩
    have hread : ∀ behind, readLabel? (label ++ .scalar '=' :: (quoted value ++ behind)) =
        some (label, .scalar '=' :: (quoted value ++ behind)) := by
      intro behind
      refine readLabel?_append (hlabels (label, value) List.mem_cons_self) fun c hc => ?_
      rw [List.head?_cons, Option.some_inj] at hc
      rw [← hc]
      rfl
    rcases labels with _ | ⟨next, labels⟩
    · have htext : labelsText [(label, value)] (.scalar '}' :: rest) =
          label ++ .scalar '=' :: (quoted value ++ .scalar '}' :: rest) := by
        simp [labelsText, matchersFor, Matcher.render, Text.joinWith]
      rw [htext, readMatchers?_last supply (hread _) (readQuoted?_quoted value _)]
    · have htext : labelsText ((label, value) :: next :: labels) (.scalar '}' :: rest) =
          label ++ .scalar '=' :: (quoted value ++
            .scalar ',' :: labelsText (next :: labels) (.scalar '}' :: rest)) := by
        simp [labelsText, matchersFor, Matcher.render, Text.joinWith, Text.ofString]
      have hmore : readMatchers? supply (labelsText (next :: labels) (.scalar '}' :: rest)) =
          some (next :: labels, rest) :=
        ih (List.cons_ne_nil _ _) (fun l hl => hlabels l (List.mem_cons_of_mem _ hl))
          (by simpa using hsupply)
      rw [htext, readMatchers?_more supply (hread _) (readQuoted?_quoted value _), hmore]
      rfl

theorem length_le_labelsText (labels : List (Text × Text)) (rest : Text) :
    labels.length ≤ (labelsText labels rest).length := by
  induction labels with
  | nil => exact Nat.zero_le _
  | cons l labels ih =>
    rcases labels with _ | ⟨next, labels⟩
    · simp only [labelsText, matchersFor, Matcher.render, Text.joinWith, List.map_cons, List.map_nil,
        List.length_append, List.length_cons, List.length_nil]
      omega
    · have htext : labelsText (l :: next :: labels) rest =
          l.1 ++ .scalar '=' :: (quoted l.2 ++ .scalar ',' :: labelsText (next :: labels) rest) := by
        simp [labelsText, matchersFor, Matcher.render, Text.joinWith, Text.ofString]
      rw [htext]
      simp only [List.length_append, List.length_cons] at ih ⊢
      omega

/-- A selector with labels and what follows it: the metric and, behind the brace, the labels. -/
theorem renderSelector_append {labels : List (Text × Text)} (hne : labels ≠ []) (metric rest : Text) :
    renderSelector metric (matchersFor labels) ++ rest =
      metric ++ .scalar '{' :: labelsText labels (.scalar '}' :: rest) := by
  obtain ⟨l, labels, rfl⟩ := List.exists_cons_of_ne_nil hne
  simp [renderSelector, labelsText, matchersFor, Text.ofString]

/-- **A selector reads back.** -/
theorem readSelector?_renderSelector {metric : Text} (hmetric : .scalar '{' ∉ metric)
    {labels : List (Text × Text)} (hlabels : ∀ l ∈ labels, IsLabelName l.1) :
    readSelector? (renderSelector metric (matchersFor labels)) = some (metric, labels) := by
  have hname : ∀ c ∈ metric, decide (c ≠ .scalar '{') = true := by
    intro c hc
    refine decide_eq_true ?_
    rintro rfl
    exact hmetric hc
  rcases labels with _ | ⟨l, labels⟩
  · obtain ⟨-, hdrop⟩ := takeWhile_append_of_head (b := []) hname (by simp)
    rw [List.append_nil] at hdrop
    show readSelector? metric = _
    rw [readSelector?, hdrop]
  · have htext : renderSelector metric (matchersFor (l :: labels)) =
        metric ++ .scalar '{' :: labelsText (l :: labels) [.scalar '}'] := by
      rw [← renderSelector_append (List.cons_ne_nil _ _), List.append_nil]
    obtain ⟨htake, hdrop⟩ := takeWhile_append_of_head
      (b := .scalar '{' :: labelsText (l :: labels) [.scalar '}']) hname (by simp)
    rw [htext, readSelector?, htake, hdrop]
    dsimp only
    rw [readMatchers?_labelsText (List.cons_ne_nil _ _) hlabels [] (length_le_labelsText _ _)]
    rfl

/-! ## Queries -/

/-- A query around a selector: what stands before and behind it, and what is put to the name of the
metric. -/
structure Shape where
  before : Text
  suffix : Text
  behind : Text

/-- A query of a shape. -/
def Shape.query (shape : Shape) (metric : Text) (matchers : List Matcher) : Text :=
  shape.before ++ renderSelector (metric ++ shape.suffix) matchers ++ shape.behind

/-- The shapes of the queries for the supported types. -/
def standardShape? (type : Text) : Option Shape :=
  if type = "number" then
    some ⟨"histogram_quantile(0.95, sum by (le) (rate(", "_bucket", "[1m])))"⟩
  else if type = "boolean" then some ⟨"sum by (identifier) (rate(", "_total", "[1m]))"⟩
  else if type = "string" then some ⟨"sum by (identifier) (rate(", "_total", "[1m]))"⟩
  else if type = "days and time duration" then some ⟨"", "", ""⟩
  else if type = "years and months duration" then some ⟨"", "", ""⟩
  else none

theorem render_counterRate (label metric : Text) (hlabel : label ≠ []) (matchers : List Matcher) :
    ({ kind := .counterRate, groupBy := some label } : QueryFunction).render metric matchers =
      .ok (Shape.query ⟨("sum by (" : Text) ++ label ++ (") (rate(" : Text), "_total", "[1m]))"⟩
        metric matchers) := by
  obtain ⟨c, label, rfl⟩ := List.exists_cons_of_ne_nil hlabel
  rw [QueryFunction.render]
  simp [Shape.query, renderRate, Text.ofString]

theorem render_standard {type : Text} {f : QueryFunction}
    (hf : Registry.standard.functionFor type = .ok f) : ∃ shape, standardShape? type = some shape ∧
      ∀ metric matchers, f.render metric matchers = .ok (shape.query metric matchers) := by
  have hcounter : ∀ metric matchers, Registry.evaluationRate.render metric matchers =
      .ok (Shape.query ⟨"sum by (identifier) (rate(", "_total", "[1m]))"⟩ metric matchers) := by
    intro metric matchers
    exact render_counterRate "identifier" metric (by decide) matchers
  have hgauge : ∀ metric matchers, ({ kind := .gaugeValue } : QueryFunction).render metric matchers =
      .ok (Shape.query ⟨"", "", ""⟩ metric matchers) := by
    intro metric matchers
    rw [QueryFunction.render]
    simp [Shape.query, Text.ofString]
  have hquantile : Shortest.text messageFloatNames Registry.ninetyFifth = "0.95" := by decide +kernel
  have hhistogram : ∀ metric matchers,
      ({ kind := .histogramQuantile, quantile := some Registry.ninetyFifth } : QueryFunction).render
        metric matchers = .ok (Shape.query
          ⟨"histogram_quantile(0.95, sum by (le) (rate(", "_bucket", "[1m])))"⟩ metric matchers) := by
    intro metric matchers
    rw [QueryFunction.render]
    dsimp only
    rw [hquantile]
    simp [Shape.query, renderRate, Text.ofString]
  rw [Registry.functionFor] at hf
  by_cases h1 : type = "number"
  · subst h1
    exact ⟨_, rfl, by rw [← Except.ok.inj hf]; exact hhistogram⟩
  by_cases h2 : type = "boolean"
  · subst h2
    exact ⟨_, rfl, by rw [← Except.ok.inj hf]; exact hcounter⟩
  by_cases h3 : type = "string"
  · subst h3
    exact ⟨_, rfl, by rw [← Except.ok.inj hf]; exact hcounter⟩
  by_cases h4 : type = "days and time duration"
  · subst h4
    exact ⟨_, rfl, by rw [← Except.ok.inj hf]; exact hgauge⟩
  by_cases h5 : type = "years and months duration"
  · subst h5
    exact ⟨_, rfl, by rw [← Except.ok.inj hf]; exact hgauge⟩
  · have hnone : Registry.standard.find? type = none := by
      simp only [Registry.standard, Registry.find?, if_neg (Ne.symm h1), if_neg (Ne.symm h2),
        if_neg (Ne.symm h3), if_neg (Ne.symm h4), if_neg (Ne.symm h5)]
    rw [hnone] at hf
    exact absurd hf (by simp)

theorem brace_not_mem_suffix {type : Text} {shape : Shape} (h : standardShape? type = some shape) :
    CodePoint.scalar '{' ∉ shape.suffix := by
  rw [standardShape?] at h
  split_ifs at h <;> rw [← Option.some_inj.1 h] <;> decide

/-- **No value breaks out of its matcher.**  For each supported type the query is the selector in the
shape of the type, and the selector is read as the metric and the labels that were meant.  So two lists
of labels with the same query are the same. -/
theorem render_standard_readBack {type : Text} {f : QueryFunction}
    (hf : Registry.standard.functionFor type = .ok f) {metric : Text} (hmetric : .scalar '{' ∉ metric)
    {labels : List (Text × Text)} (hlabels : ∀ l ∈ labels, IsLabelName l.1) :
    ∃ shape, standardShape? type = some shape ∧
      f.render metric (matchersFor labels) = .ok (shape.before ++
        renderSelector (metric ++ shape.suffix) (matchersFor labels) ++ shape.behind) ∧
      readSelector? (renderSelector (metric ++ shape.suffix) (matchersFor labels)) =
        some (metric ++ shape.suffix, labels) ∧
      ∀ others : List (Text × Text), (∀ l ∈ others, IsLabelName l.1) →
        f.render metric (matchersFor others) = f.render metric (matchersFor labels) →
          others = labels := by
  obtain ⟨shape, hshape, hrender⟩ := render_standard hf
  have hsuffix : .scalar '{' ∉ metric ++ shape.suffix := fun h =>
    (List.mem_append.1 h).elim hmetric (brace_not_mem_suffix hshape)
  have hread := fun (l : List (Text × Text)) (hl : ∀ p ∈ l, IsLabelName p.1) =>
    readSelector?_renderSelector hsuffix hl
  refine ⟨shape, hshape, hrender metric _, hread labels hlabels, ?_⟩
  intro others hothers heq
  rw [hrender, hrender, Except.ok.injEq, Shape.query, Shape.query, List.append_left_inj,
    List.append_right_inj] at heq
  have hsame := hread others hothers
  rw [heq, hread labels hlabels, Option.some_inj, Prod.mk.injEq] at hsame
  exact hsame.2.symm

/-- Labels whose values look like the end of their matchers. -/
def hostileLabels : List (Text × Text) := [("endpoint", "\\"), ("decision", "\",x=\"\n")]

theorem render_standard_readBack_hostile :
    ∃ shape, standardShape? "string" = some shape ∧
      readSelector? (renderSelector (("decisions" : Text) ++ shape.suffix)
        (matchersFor hostileLabels)) = some (("decisions" : Text) ++ shape.suffix, hostileLabels) := by
  have hf : Registry.standard.functionFor "string" = .ok Registry.evaluationRate := rfl
  have hmetric : CodePoint.scalar '{' ∉ ("decisions" : Text) := by decide
  have hlabels : ∀ l ∈ hostileLabels, IsLabelName l.1 := by decide
  obtain ⟨shape, hshape, -, hread, -⟩ := render_standard_readBack hf hmetric hlabels
  exact ⟨shape, hshape, hread⟩

end PromQL
end DashboardSynthesis
