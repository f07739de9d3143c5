import DashboardSynthesis.Proofs.Dashboard.Acceptance
import DashboardSynthesis.Proofs.Json.Faults

/-!
# Texts that are no dashboards

`IsDashboard` describes the members of a dashboard, and a document is made of exactly the texts that are an
object with such members (`exists_parse_iff`).  All other texts are meant to be refused with a reason.

A text that is not refused although it is no dashboard breaks the parsing.  Apart from the nesting there are
two ways.  The reader meets an integer with too many digits, which is not a fault of the JSON; or the first
coordinate that is no integer is an infinity, whose conversion fails in another way than that of everything
else.  `parsesAsDocumented_iff` says that there are no others, and that both do.
-/

namespace DashboardSynthesis
namespace Document

/-- What stands under a key in the grid position of a panel. -/
def gridValue? (panel : Json) (key : Text) : Option Json := (present? panel "gridPos").bind (·.get? key)

/-- The values that make the bottom edge of a panel, in the order in which they are converted. -/
def edgeValues (panel : Json) : List Json := (gridValue? panel "y").toList ++ (gridValue? panel "h").toList

/-- The panels and the links are lists, and the panels have the right shape. -/
structure HasDashboardShape (members : Json.Members) : Prop where
  panelsIsList : ∀ v, members.get? "panels" = some v → ∃ items, v = .arr items
  linksIsList : ∀ v, members.get? "links" = some v → ∃ items, v = .arr items
  panels : ∀ panel ∈ panelsOf members, HasPanelShape panel

/-- A dashboard: of the right shape, and with coordinates that are integers. -/
structure IsDashboard (members : Json.Members) : Prop extends HasDashboardShape members where
  coordinates : ∀ panel ∈ panelsOf members, ∀ v ∈ edgeValues panel, ∃ n, v.toInteger = .ok n

/-- The first coordinate of the panels that is no integer is infinite. -/
def MeetsInfinity (panels : List Json) : Prop :=
  ∃ before negative after, panels.flatMap edgeValues = before ++ .float (.infinite negative) :: after ∧
    ∀ v ∈ before, ∃ n, v.toInteger = .ok n

/-- How parsing is meant to end: with a document, exactly if the text is a dashboard, or with a refusal. -/
structure ParsesAsDocumented (text : Text) : Prop where
  outcome : (∃ d, parse text = .ok d) ∨ ∃ why, parse text = .error (.refused why)
  accepts_iff : (∃ d, parse text = .ok d) ↔
    ∃ members, Json.read text = .ok (.obj members) ∧ IsDashboard members

/-! ## Coordinates -/

/-- Why a value is no integer, if it is none. -/
def whyNotInteger? (v : Json) : Option NotInteger :=
  match v.toInteger with
  | .ok _ => none
  | .error why => some why

theorem whyNotInteger?_eq_none_iff {v : Json} : whyNotInteger? v = none ↔ ∃ n, v.toInteger = .ok n := by
  rw [whyNotInteger?]
  cases v.toInteger <;> simp

theorem whyNotInteger?_eq_some_iff {v : Json} {why : NotInteger} :
    whyNotInteger? v = some why ↔ v.toInteger = .error why := by
  rw [whyNotInteger?]
  cases v.toInteger <;> simp

/-- No numeral is infinite, and no value of another kind is. -/
theorem toInteger_eq_infinite_iff {v : Json} :
    v.toInteger = .error .infinite ↔ ∃ negative, v = .float (.infinite negative) := by
  constructor
  · intro h
    unfold Json.toInteger at h
    split at h
    case h_4 negative => exact ⟨negative, rfl⟩
    case h_6 t =>
      unfold Numeral.read at h
      split at h
      dsimp only at h
      split at h
      · exact absurd h (by simp)
      · split_ifs at h
        · exact absurd h (by simp)
        · exact absurd h (by simp)
    all_goals exact absurd h (by simp)
  · rintro ⟨negative, rfl⟩
    rfl

theorem coordinate_eq_error_iff {panel : Json} {key : Text} {why : NotInteger} :
    coordinate panel key = .error why ↔ (gridValue? panel key).bind whyNotInteger? = some why := by
  rw [coordinate, ← gridValue?]
  cases gridValue? panel key with
  | none => simp
  | some v => exact whyNotInteger?_eq_some_iff.symm

theorem exists_coordinate_iff {panel : Json} {key : Text} :
    (∃ n, coordinate panel key = .ok n) ↔ (gridValue? panel key).bind whyNotInteger? = none := by
  rw [coordinate, ← gridValue?]
  cases gridValue? panel key with
  | none => simp
  | some v => exact whyNotInteger?_eq_none_iff.symm

theorem findSome?_edgeValues (panel : Json) : (edgeValues panel).findSome? whyNotInteger? =
    ((gridValue? panel "y").bind whyNotInteger?).or ((gridValue? panel "h").bind whyNotInteger?) := by
  rw [edgeValues, List.findSome?_append]
  cases gridValue? panel "y" <;> cases gridValue? panel "h" <;> simp

/-- A bottom edge fails at the first of its values that is no integer. -/
theorem bottom_eq_error_iff {panel : Json} {why : NotInteger} :
    bottom panel = .error why ↔ (edgeValues panel).findSome? whyNotInteger? = some why := by
  have hsum : ∀ y, (do let h ← coordinate panel "h"; pure (y + h)) = .error why ↔
      coordinate panel "h" = .error why := by
    intro y
    rw [bind_eq_error_iff]
    simp [pure, Except.pure]
  rw [findSome?_edgeValues, Option.or_eq_some_iff, ← coordinate_eq_error_iff, ← coordinate_eq_error_iff,
    ← exists_coordinate_iff, bottom, bind_eq_error_iff]
  simp only [hsum, exists_and_right]

theorem exists_bottom_iff {panel : Json} :
    (∃ y, bottom panel = .ok y) ↔ ∀ v ∈ edgeValues panel, ∃ n, v.toInteger = .ok n := by
  simp only [← whyNotInteger?_eq_none_iff]
  rw [← List.findSome?_eq_none_iff, Option.eq_none_iff_forall_ne_some]
  simp only [ne_eq, ← bottom_eq_error_iff]
  cases bottom panel <;> simp

/-- The greatest bottom edge fails at the first coordinate that is no integer. -/
theorem contentBottom_eq_error_iff {least : ℤ} {panels : List Json} {why : NotInteger} :
    contentBottom least panels = .error why ↔
      (panels.flatMap edgeValues).findSome? whyNotInteger? = some why := by
  induction panels generalizing least with
  | nil => simp [contentBottom]
  | cons panel panels ih =>
    have hedge : (edgeValues panel).findSome? whyNotInteger? = none ↔ ∃ y, bottom panel = .ok y := by
      simp only [List.findSome?_eq_none_iff, exists_bottom_iff, whyNotInteger?_eq_none_iff]
    rw [contentBottom, bind_eq_error_iff, List.flatMap_cons, List.findSome?_append, Option.or_eq_some_iff,
      bottom_eq_error_iff, hedge]
    simp only [ih, exists_and_right]

theorem contentBottom_eq_infinite_iff {least : ℤ} {panels : List Json} :
    contentBottom least panels = .error .infinite ↔ MeetsInfinity panels := by
  rw [contentBottom_eq_error_iff, List.findSome?_eq_some_iff]
  simp only [whyNotInteger?_eq_some_iff, whyNotInteger?_eq_none_iff, toInteger_eq_infinite_iff]
  constructor
  · rintro ⟨before, v, after, hsplit, ⟨negative, rfl⟩, hbefore⟩
    exact ⟨before, negative, after, hsplit, hbefore⟩
  · rintro ⟨before, negative, after, hsplit, hbefore⟩
    exact ⟨before, _, after, hsplit, ⟨negative, rfl⟩, hbefore⟩

/-! ## Acceptance -/

theorem isListOrAbsent_iff {members : Json.Members} {key : Text} :
    isListOrAbsent members key = true ↔ ∀ v, members.get? key = some v → ∃ items, v = .arr items := by
  rw [isListOrAbsent]
  constructor
  · intro h v hv
    rw [hv] at h
    cases v with
    | arr items => exact ⟨items, rfl⟩
    | _ => exact absurd h (by simp)
  · intro h
    cases hv : members.get? key with
    | none => rfl
    | some v =>
      obtain ⟨items, rfl⟩ := h v hv
      rfl

theorem isDashboard_iff {members : Json.Members} : IsDashboard members ↔ IsAcceptable members := by
  constructor
  · rintro ⟨⟨hpanels, hlinks, hshape⟩, hcoordinates⟩
    refine ⟨isListOrAbsent_iff.2 hpanels, isListOrAbsent_iff.2 hlinks, fun panel hpanel => ?_⟩
    exact ⟨hshape panel hpanel, exists_bottom_iff.2 (hcoordinates panel hpanel)⟩
  · rintro ⟨hpanels, hlinks, hacceptable⟩
    refine ⟨⟨isListOrAbsent_iff.1 hpanels, isListOrAbsent_iff.1 hlinks, fun panel hpanel => ?_⟩,
      fun panel hpanel => ?_⟩
    · exact (hacceptable panel hpanel).toHasPanelShape
    · exact exists_bottom_iff.1 (hacceptable panel hpanel).edge

/-- **Which texts are accepted.** -/
theorem exists_parse_iff {text : Text} : (∃ d, parse text = .ok d) ↔
    ∃ members, Json.read text = .ok (.obj members) ∧ IsDashboard members := by
  constructor
  · rintro ⟨d, hd⟩
    obtain ⟨members, hread, hmembers⟩ := parse_eq_ok_iff.1 hd
    exact ⟨members, hread, isDashboard_iff.2 (exists_ofMembers_iff.1 ⟨d, hmembers⟩)⟩
  · rintro ⟨members, hread, hdashboard⟩
    obtain ⟨d, hd⟩ := exists_ofMembers_iff.2 (isDashboard_iff.1 hdashboard)
    exact ⟨d, parse_eq_ok_iff.2 ⟨members, hread, hd⟩⟩

/-! ## Refusal -/

theorem hasDashboardShape_iff {members : Json.Members} : HasDashboardShape members ↔
    (isListOrAbsent members "panels" = true ∧ isListOrAbsent members "links" = true) ∧
      checkPanels 0 (panelsOf members) = .ok () := by
  rw [checkPanels_eq_ok_iff, isListOrAbsent_iff, isListOrAbsent_iff]
  exact ⟨fun ⟨hpanels, hlinks, hshape⟩ => ⟨⟨hpanels, hlinks⟩, hshape⟩,
    fun ⟨⟨hpanels, hlinks⟩, hshape⟩ => ⟨hpanels, hlinks, hshape⟩⟩

/-- Where an object has the shape of a dashboard, only an infinity keeps it from being accepted or refused. -/
theorem ofMembers_outcome_iff {members : Json.Members} :
    ((∃ d, ofMembers members = .ok d) ∨ ∃ why, ofMembers members = .error (.refused why)) ↔
      (HasDashboardShape members → ¬ MeetsInfinity (panelsOf members)) := by
  rw [hasDashboardShape_iff, ← @contentBottom_eq_infinite_iff 0]
  by_cases hlists : isListOrAbsent members "panels" = true ∧ isListOrAbsent members "links" = true
  · rw [ofMembers_of_lists hlists.1 hlists.2]
    cases checkPanels 0 (panelsOf members) with
    | error why => simp
    | ok u =>
      cases contentBottom 0 (panelsOf members) with
      | ok y => simp
      | error why => cases why <;> simp [hlists]
  · rw [ofMembers_of_not_lists hlists]
    simp [hlists]

theorem parse_outcome_iff {text : Text} :
    ((∃ d, parse text = .ok d) ∨ ∃ why, parse text = .error (.refused why)) ↔
      Json.read text ≠ .error .tooDeep ∧ (∀ n, Json.read text ≠ .error (.tooManyDigits n)) ∧
        ∀ members, Json.read text = .ok (.obj members) → HasDashboardShape members →
          ¬ MeetsInfinity (panelsOf members) := by
  rw [parse]
  cases Json.read text with
  | error fault => cases fault <;> simp
  | ok v =>
    cases v with
    | obj members => simp [← ofMembers_outcome_iff]
    | _ => simp

/-- **How parsing fails.**  If lists and objects are not nested too deeply, as they are not in a text that
opens few of them (`Json.read_ne_tooDeep`), a text is accepted or refused as it should be unless an integer
in it has too many digits or its first coordinate that is no integer is an infinity. -/
theorem parsesAsDocumented_iff {text : Text} (hdepth : Json.read text ≠ .error .tooDeep) :
    ParsesAsDocumented text ↔ (∀ n, Json.read text ≠ .error (.tooManyDigits n)) ∧
      ∀ members, Json.read text = .ok (.obj members) → HasDashboardShape members →
        ¬ MeetsInfinity (panelsOf members) := by
  constructor
  · intro h
    exact (parse_outcome_iff.1 h.outcome).2
  · intro h
    exact ⟨parse_outcome_iff.2 ⟨hdepth, h⟩, exists_parse_iff⟩

/-- A dashboard with a coordinate that is a text. -/
def numeralSource : Text := "\x7b\"panels\": [\x7b\"gridPos\": \x7b\"y\": \" 4_0\", \"h\": true\x7d\x7d]\x7d"

theorem parsesAsDocumented_iff_numeral :
    Json.read numeralSource ≠ .error .tooDeep ∧
      (ParsesAsDocumented numeralSource ↔ (∀ n, Json.read numeralSource ≠ .error (.tooManyDigits n)) ∧
        ∀ members, Json.read numeralSource = .ok (.obj members) → HasDashboardShape members →
          ¬ MeetsInfinity (panelsOf members)) := by
  have hdepth : Json.read numeralSource ≠ .error .tooDeep := Json.read_ne_tooDeep (by decide +kernel)
  exact ⟨hdepth, parsesAsDocumented_iff hdepth⟩

/-- A dashboard with an infinite coordinate. -/
def infiniteSource : Text := "\x7b\"panels\": [\x7b\"gridPos\": \x7b\"y\": Infinity\x7d\x7d]\x7d"

theorem not_parsesAsDocumented_infinite :
    Json.read infiniteSource ≠ .error .tooDeep ∧ ¬ ParsesAsDocumented infiniteSource := by
  refine ⟨Json.read_ne_tooDeep (by decide +kernel), fun h => ?_⟩
  have hfault : (match parse infiniteSource with
      | .error fault => some fault
      | .ok _ => none) = some Fault.infiniteGrid := by decide +kernel
  rcases h.outcome with ⟨d, hd⟩ | ⟨why, hwhy⟩
  · rw [hd] at hfault
    exact absurd hfault (by simp)
  · rw [hwhy] at hfault
    exact absurd hfault (by simp)

end Document
end DashboardSynthesis
