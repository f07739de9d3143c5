import DashboardSynthesis.Decision.Treatment
import DashboardSynthesis.Proofs.Outcome
import DashboardSynthesis.Proofs.Text.Trimming
import Mathlib.Data.List.Forall2

/-!
# Local names of types

A type may be declared in many forms: behind a qualifier, with blanks around it, or both, and a form of a form
is a form again (`IsQualifiedForm.trans`).  The local name is the plainest of them.  The type is a form of it,
and it has no form that is plainer: no blanks at its ends, and nothing in it that ends a qualifier
(`localTypeName_eq_iff`).  So all forms of a type have the same local name.

What becomes of a decision depends on its type through the local name alone, so decisions whose types are
declared in other forms get the same panels and the same warnings (`effects_treatAll_congr`).
-/

namespace DashboardSynthesis

/-- Does this end a qualifier? -/
def CodePoint.endsQualifier (c : CodePoint) : Bool := c = .scalar '}' || c = .scalar ':'

/-- `declared` is a form of `type`: there may be blanks around the type, and in front of it a qualifier, which
ends with a brace or a colon. -/
def IsQualifiedForm (type declared : Text) : Prop :=
  ∃ qualifier before after : Text, declared = qualifier ++ (before ++ type ++ after) ∧
    qualifier.EndsIn CodePoint.endsQualifier ∧ (∀ c ∈ before, c.isBlank = true) ∧
    ∀ c ∈ after, c.isBlank = true

/-- `name` is what stands behind the last brace or colon of `declared`, without blanks at its ends. -/
structure IsLocalName (declared name : Text) : Prop where
  qualified : IsQualifiedForm name declared
  unqualified : ∀ c ∈ name, ¬ c.endsQualifier = true
  trimmed : Text.IsTrimmed CodePoint.isBlank name

variable {type declared declared' name : Text}

/-! ## Forms -/

theorem IsQualifiedForm.refl (type : Text) : IsQualifiedForm type type := by
  refine ⟨[], [], [], ?_, fun c hc => absurd hc (by simp), ?_, ?_⟩
  · rw [List.nil_append, List.nil_append, List.append_nil]
  · exact fun c hc => absurd hc List.not_mem_nil
  · exact fun c hc => absurd hc List.not_mem_nil

theorem IsQualifiedForm.trans (h : IsQualifiedForm type declared)
    (h' : IsQualifiedForm declared declared') : IsQualifiedForm type declared' := by
  obtain ⟨qualifier, before, after, rfl, hqualifier, hbefore, hafter⟩ := h
  obtain ⟨qualifier', before', after', rfl, hqualifier', hbefore', hafter'⟩ := h'
  have hbehind : ∀ c ∈ after ++ after', c.isBlank = true := List.forall_mem_append.2 ⟨hafter, hafter'⟩
  by_cases hnil : qualifier = []
  · -- without an inner qualifier the blanks come together
    refine ⟨qualifier', before' ++ before, after ++ after', ?_, hqualifier',
      List.forall_mem_append.2 ⟨hbefore', hbefore⟩, hbehind⟩
    rw [hnil]
    simp only [List.nil_append, List.append_assoc]
  · -- with one, all in front of it belongs to the qualifier
    refine ⟨qualifier' ++ before' ++ qualifier, before, after ++ after', ?_,
      hqualifier.append_of_ne_nil hnil _, hbefore, hbehind⟩
    simp only [List.append_assoc]

/-! ## The local name -/

theorem not_endsQualifier_of_isBlank {c : CodePoint} (h : c.isBlank = true) :
    ¬ c.endsQualifier = true := by
  intro hends
  rw [CodePoint.endsQualifier, Bool.or_eq_true, decide_eq_true_iff, decide_eq_true_iff] at hends
  rcases hends with rfl | rfl
  · exact absurd h (by decide)
  · exact absurd h (by decide)

/-- The two cuts are one, behind the last code point that ends a qualifier. -/
theorem localTypeName_eq_trim (declared : Text) :
    localTypeName declared = Text.trim (Text.afterLast CodePoint.endsQualifier declared) := by
  rw [localTypeName, Text.afterLast_afterLast]
  rfl

theorem isLocalName_localTypeName (declared : Text) : IsLocalName declared (localTypeName declared) := by
  rw [localTypeName_eq_trim]
  obtain ⟨qualifier, hdeclared, hqualifier, hnone⟩ :=
    Text.exists_eq_append_afterLast CodePoint.endsQualifier declared
  obtain ⟨before, after, hrest, hbefore, hafter⟩ :=
    Text.exists_eq_append_trimBy CodePoint.isBlank (Text.afterLast CodePoint.endsQualifier declared)
  refine ⟨⟨qualifier, before, after, ?_, hqualifier, hbefore, hafter⟩, ?_, Text.isTrimmed_trimBy _ _⟩
  · rw [Text.trim, ← hrest]
    exact hdeclared
  · intro c hc
    refine hnone c ?_
    rw [hrest]
    exact List.mem_append_left _ (List.mem_append_right _ hc)

/-- **The local name.**  It is the one text that is the local name of the type. -/
theorem localTypeName_eq_iff : localTypeName declared = name ↔ IsLocalName declared name := by
  constructor
  · rintro rfl
    exact isLocalName_localTypeName declared
  · rintro ⟨⟨qualifier, before, after, rfl, hqualifier, hbefore, hafter⟩, hnone, htrimmed⟩
    have hbehind : ∀ c ∈ before ++ name ++ after, ¬ c.endsQualifier = true := by
      refine List.forall_mem_append.2 ⟨List.forall_mem_append.2 ⟨?_, hnone⟩, ?_⟩
      · exact fun c hc => not_endsQualifier_of_isBlank (hbefore c hc)
      · exact fun c hc => not_endsQualifier_of_isBlank (hafter c hc)
    rw [localTypeName_eq_trim, Text.afterLast_append hqualifier hbehind]
    exact Text.trimBy_append hbefore hafter htrimmed

/-- A local name is its own local name. -/
theorem localTypeName_localTypeName (declared : Text) :
    localTypeName (localTypeName declared) = localTypeName declared := by
  have hname := isLocalName_localTypeName declared
  exact localTypeName_eq_iff.2 ⟨.refl _, hname.unqualified, hname.trimmed⟩

/-- All forms of a type have its local name. -/
theorem IsQualifiedForm.localTypeName_eq (h : IsQualifiedForm type declared) :
    localTypeName declared = localTypeName type := by
  have hname := isLocalName_localTypeName type
  exact localTypeName_eq_iff.2 ⟨hname.qualified.trans h, hname.unqualified, hname.trimmed⟩

/-! ## Decisions -/

/-- The decisions are the same, but for the form in which their type is declared, if it is. -/
structure Decision.IsRequalified (d d' : Decision) : Prop where
  name : d'.name = d.name
  identifier : d'.identifier = d.identifier
  type : Option.Rel IsQualifiedForm d.valueType d'.valueType

theorem Decision.IsRequalified.localType?_eq {d d' : Decision} (h : d.IsRequalified d') :
    d'.localType? = d.localType? := by
  have htype := h.type
  rw [Decision.localType?, Decision.localType?]
  generalize d.valueType = type, d'.valueType = type' at htype
  cases htype with
  | none => rfl
  | some hform => exact congrArg some hform.localTypeName_eq

/-- What is made of a decision: its panel and its warning, as far as there are any. -/
def Treatment.effects (t : Treatment) : Option PanelContent × Option Text := (t.content?, t.warning?)

section Treating

variable {registry : Registry} {metric endpoint : Text} {build : Build} {d d' : Decision}
  {ds ds' : List Decision}

theorem decisionPanel_congr (h : d'.name = d.name) (type : Text) :
    decisionPanel registry metric endpoint build d' type =
      decisionPanel registry metric endpoint build d type := by
  rw [decisionPanel, decisionPanel, decisionMatchers, decisionMatchers, h]

/-- **One decision.**  Its panel and its warning do not depend on the form of its type. -/
theorem effects_treat_congr (h : d.IsRequalified d') :
    (treat registry metric endpoint build d').map Treatment.effects =
      (treat registry metric endpoint build d).map Treatment.effects := by
  rw [treat, treat, h.localType?_eq]
  cases d.localType? with
  | none =>
    simp only [Except.map, Treatment.effects, Treatment.content?, Treatment.warning?, h.name,
      h.identifier]
  | some type =>
    dsimp only
    by_cases hsupports : registry.supports type = true
    · rw [if_pos hsupports, if_pos hsupports, decisionPanel_congr h.name]
      cases decisionPanel registry metric endpoint build d type <;> rfl
    · rw [if_neg hsupports, if_neg hsupports]
      simp only [Except.map, Treatment.effects, Treatment.content?, Treatment.warning?, h.name,
        h.identifier]

/-- **All decisions.**  Panels, warnings and defects do not depend on the forms of their types. -/
theorem effects_treatAll_congr (registry : Registry) (metric endpoint : Text) (build : Build)
    (h : List.Forall₂ Decision.IsRequalified ds ds') :
    (treatAll registry metric endpoint build ds').1.map Treatment.effects =
        (treatAll registry metric endpoint build ds).1.map Treatment.effects ∧
      (treatAll registry metric endpoint build ds').2 = (treatAll registry metric endpoint build ds).2 := by
  induction h with
  | nil => exact ⟨rfl, rfl⟩
  | @cons d d' ds ds' hd _ ih =>
    have hfirst : (treat registry metric endpoint build d').map Treatment.effects =
      (treat registry metric endpoint build d).map Treatment.effects := effects_treat_congr hd
    rw [treatAll, treatAll]
    cases ht : treat registry metric endpoint build d with
    | error defect =>
      rw [ht] at hfirst
      rw [eq_error_of_map_eq_error hfirst]
      exact ⟨rfl, rfl⟩
    | ok t =>
      rw [ht] at hfirst
      obtain ⟨t', ht', heffects⟩ := exists_of_map_eq_ok hfirst
      rw [ht']
      exact ⟨congrArg₂ List.cons heffects ih.1, ih.2⟩

end Treating

theorem filterMap_content?_eq (ts : List Treatment) :
    ts.filterMap Treatment.content? = (ts.map Treatment.effects).filterMap Prod.fst := by
  rw [List.filterMap_map]
  rfl

theorem filterMap_warning?_eq (ts : List Treatment) :
    ts.filterMap Treatment.warning? = (ts.map Treatment.effects).filterMap Prod.snd := by
  rw [List.filterMap_map]
  rfl

end DashboardSynthesis
