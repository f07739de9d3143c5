import DashboardSynthesis.Decision.File
import DashboardSynthesis.Proofs.Outcome
import Mathlib.Data.List.Basic

/-!
# Entries of a file of decisions

Of three values an entry is asked for the text, and each may be missing in its own way: a name or an
identifier is missing if it counts as absent, a type only if there is nothing.  What an entry says by itself
is `declaredBy`, where nothing but nothing counts as missing; what is made of it is `takenFrom`.  They differ
where an identifier is given that counts as absent, unless its text is the name (`takenFrom_eq_iff`).

A value may have no text, since an integer in it is too long to be written or values are nested in it too
deeply.  So a list of entries is read up to the first one that has no name, or in which a text is asked for
that is not there (`ofValues_eq_ok_iff`, `ofValues_of_nameless`, `exists_unprintable_iff`).
-/

namespace DashboardSynthesis

/-- The text of a value in which so many values may be nested, if it has one. -/
def Yaml.Value.textOr (levels : Nat) (v : Yaml.Value) : Text := ((v.text? levels).toOption).getD []

namespace Decision

open Yaml (Value Datum)

/-! ## What an entry says -/

/-- The value under a key of an entry, unless it is nothing. -/
def stated? (entry : Value) (key : Text) : Option Value := (entry.get? key).filter fun v => !v.isNull

/-- The entry is a mapping with a name that does not count as absent. -/
def IsNamed (entry : Value) : Prop := ∃ name, entry.get? "name" = some name ∧ name.isTruthy = true

/-- The decision with the name and the type of an entry, and with the text of a value for its identifier; its
name stands in for a missing one. -/
def withIdentifier (levels : Nat) (entry : Value) (identifier : Option Value) : Decision :=
  let name := ((entry.get? "name").map (Value.textOr levels)).getD []
  { name
    identifier := (identifier.map (Value.textOr levels)).getD name
    valueType := (stated? entry "type").map (Value.textOr levels) }

/-- The decision that an entry declares. -/
def declaredBy (levels : Nat) (entry : Value) : Decision :=
  withIdentifier levels entry (stated? entry "id")

/-- The decision that is made of an entry. -/
def takenFrom (levels : Nat) (entry : Value) : Decision :=
  withIdentifier levels entry (present? entry "id")

/-- The value can be written. -/
def isPrintable (levels : Nat) (v : Value) : Bool := (v.text? levels).isOk

/-- Every value whose text is taken can be written. -/
def HasPrintableTexts (levels : Nat) (entry : Value) : Prop :=
  (present? entry "name").all (isPrintable levels) = true ∧
    (present? entry "id").all (isPrintable levels) = true ∧
      (declared? entry).all (isPrintable levels) = true

/-- An identifier that counts as absent has the text of the name. -/
def KeepsIdentifier (levels : Nat) (entry : Value) : Prop :=
  ∀ identifier, stated? entry "id" = some identifier → identifier.isTruthy = false →
    identifier.textOr levels = (takenFrom levels entry).name

variable {levels : Nat} {entry : Value} {items : List Value} {decisions : List Decision} {index : Nat}

theorem isNamed_iff : IsNamed entry ↔ (present? entry "name").isSome = true := by
  rw [IsNamed, present?, Option.isSome_filter]
  cases entry.get? "name" <;> simp

instance : DecidablePred IsNamed := fun _ => decidable_of_iff _ isNamed_iff.symm

instance : DecidablePred (HasPrintableTexts levels) := fun _ => inferInstanceAs (Decidable (_ ∧ _))

theorem keepsIdentifier_iff : KeepsIdentifier levels entry ↔
    (stated? entry "id").all (fun v => v.isTruthy || v.textOr levels = (takenFrom levels entry).name) =
      true := by
  rw [KeepsIdentifier]
  cases stated? entry "id" with
  | none => simp
  | some v => cases htruthy : v.isTruthy <;> simp [htruthy]

instance : DecidablePred (KeepsIdentifier levels) := fun _ => decidable_of_iff _ keepsIdentifier_iff.symm

/-- What does not count as absent is something. -/
theorem stated?_of_present? {key : Text} {v : Value} (h : present? entry key = some v) :
    stated? entry key = some v := by
  obtain ⟨hget, htruthy⟩ := Option.filter_eq_some_iff.1 h
  refine Option.filter_eq_some_iff.2 ⟨hget, ?_⟩
  rw [Value.isTruthy] at htruthy
  rw [Value.isNull]
  split
  · next hnull => rw [hnull] at htruthy; exact absurd htruthy (by simp [Datum.isTruthy])
  · rfl

/-- What is something, and counts as absent. -/
theorem present?_eq_none_of_stated? {key : Text} {v : Value} (h : stated? entry key = some v)
    (hv : v.isTruthy = false) : present? entry key = none := by
  obtain ⟨hget, -⟩ := Option.filter_eq_some_iff.1 h
  rw [present?, hget]
  simp [Option.filter, hv]

/-- **What is made of an entry is what it declares,** unless it loses its identifier. -/
theorem takenFrom_eq_iff :
    takenFrom levels entry = declaredBy levels entry ↔ KeepsIdentifier levels entry := by
  cases hpresent : present? entry "id" with
  | some v =>
    have hgiven := stated?_of_present? hpresent
    refine iff_of_true (by rw [takenFrom, declaredBy, hpresent, hgiven]) fun v' hv' hfalsy => ?_
    exact absurd (present?_eq_none_of_stated? hv' hfalsy) (by simp [hpresent])
  | none =>
    cases hgiven : stated? entry "id" with
    | none =>
      refine iff_of_true (by rw [takenFrom, declaredBy, hpresent, hgiven]) fun v' hv' => ?_
      exact absurd (hgiven.symm.trans hv') (by simp)
    | some v =>
      have hfalsy : v.isTruthy = false := by
        obtain ⟨hget, -⟩ := Option.filter_eq_some_iff.1 hgiven
        rw [present?, hget] at hpresent
        simpa [Option.filter] using hpresent
      rw [KeepsIdentifier, hgiven, takenFrom, declaredBy, hpresent, hgiven]
      constructor
      · intro h v' hv' _
        rw [← Option.some_inj.1 hv']
        exact (congrArg Decision.identifier h).symm
      · intro h
        simpa [withIdentifier] using (h v rfl hfalsy).symm

/-! ## What is made of it -/

theorem ofValue_of_nameless (h : ¬ IsNamed entry) : ofValue levels index entry = .error (.noName index) := by
  rw [isNamed_iff, Option.not_isSome_iff_eq_none] at h
  rw [ofValue, h]

theorem text?_of_isPrintable {v : Value} (h : isPrintable levels v = true) :
    v.text? levels = .ok (v.textOr levels) := by
  obtain ⟨t, ht⟩ := exists_eq_ok_of_isOk h
  rw [Value.textOr, ht]
  rfl

theorem exists_text?_of_isPrintable_eq_false {v : Value} (h : isPrintable levels v = false) :
    ∃ why, v.text? levels = .error why := by
  rw [isPrintable] at h
  cases htext : v.text? levels with
  | error why => exact ⟨why, rfl⟩
  | ok t => exact absurd h (by simp [htext, Except.isOk, Except.toBool])

/-- The text of a value that may be missing, with something in its place. -/
theorem getD_map_text?_of_all {v : Option Value} (h : v.all (isPrintable levels) = true) (t : Text) :
    (v.map (Value.text? levels)).getD (.ok t) = .ok ((v.map (Value.textOr levels)).getD t) := by
  cases v with
  | none => rfl
  | some v => exact text?_of_isPrintable h

theorem mapM_text?_of_all {v : Option Value} (h : v.all (isPrintable levels) = true) :
    v.mapM (Value.text? levels) = .ok (v.map (Value.textOr levels)) := by
  cases v with
  | none => rfl
  | some v =>
    show (some <$> v.text? levels : Except _ _) = _
    rw [text?_of_isPrintable h]
    rfl

/-- An entry with a name is a decision if its texts can be written. -/
theorem ofValue_of_isNamed (h : IsNamed entry) (hprintable : HasPrintableTexts levels entry) :
    ofValue levels index entry = .ok (takenFrom levels entry) := by
  obtain ⟨name, hname⟩ := Option.isSome_iff_exists.1 (isNamed_iff.1 h)
  obtain ⟨hget, -⟩ := Option.filter_eq_some_iff.1 hname
  have htype : stated? entry "type" = declared? entry := rfl
  obtain ⟨hfirst, hsecond, hthird⟩ := hprintable
  rw [hname, Option.all_some] at hfirst
  rw [ofValue, hname, takenFrom, withIdentifier, hget, htype]
  dsimp only
  rw [bind_of_eq_ok (text?_of_isPrintable hfirst), bind_of_eq_ok (getD_map_text?_of_all hsecond _),
    bind_of_eq_ok (mapM_text?_of_all hthird)]
  rfl

/-- An entry with a name is no decision if one of its texts cannot be written, and no report is made of it. -/
theorem ofValue_of_not_hasPrintableTexts (h : IsNamed entry) (hprintable : ¬ HasPrintableTexts levels entry) :
    ∃ why, ofValue levels index entry = .error (.unprintable index why) := by
  obtain ⟨name, hname⟩ := Option.isSome_iff_exists.1 (isNamed_iff.1 h)
  rw [HasPrintableTexts, hname, Option.all_some] at hprintable
  rw [ofValue, hname]
  dsimp only
  cases hfirst : isPrintable levels name with
  | false =>
    obtain ⟨why, hwhy⟩ := exists_text?_of_isPrintable_eq_false hfirst
    exact ⟨why, by rw [hwhy]; rfl⟩
  | true =>
    rw [bind_of_eq_ok (text?_of_isPrintable hfirst)]
    cases hsecond : (present? entry "id").all (isPrintable levels) with
    | false =>
      obtain ⟨v, hv, hnot⟩ := (Option.all_eq_false _ _).1 hsecond
      obtain ⟨why, hwhy⟩ := exists_text?_of_isPrintable_eq_false hnot
      exact ⟨why, by rw [hv, Option.map_some, Option.getD_some, hwhy]; rfl⟩
    | true =>
      rw [bind_of_eq_ok (getD_map_text?_of_all hsecond _)]
      have hthird : (declared? entry).all (isPrintable levels) = false :=
        Bool.eq_false_iff.2 fun hall => hprintable ⟨hfirst, hsecond, hall⟩
      obtain ⟨v, hv, hnot⟩ := (Option.all_eq_false _ _).1 hthird
      obtain ⟨why, hwhy⟩ := exists_text?_of_isPrintable_eq_false hnot
      refine ⟨why, ?_⟩
      rw [hv]
      show Except.mapError _ ((some <$> v.text? levels : Except _ _) >>= _) = _
      rw [hwhy]
      rfl

/-! ## A list of entries -/

theorem ofValues_eq_ok_iff :
    ofValues levels index items = .ok decisions ↔
      (∀ entry ∈ items, IsNamed entry ∧ HasPrintableTexts levels entry) ∧
        decisions = items.map (takenFrom levels) := by
  induction items generalizing index decisions with
  | nil => simp [ofValues, eq_comm]
  | cons entry rest ih =>
    rw [List.forall_mem_cons, List.map_cons, ofValues]
    by_cases hnamed : IsNamed entry
    · by_cases hprintable : HasPrintableTexts levels entry
      · rw [bind_of_eq_ok (ofValue_of_isNamed hnamed hprintable)]
        constructor
        · intro h
          obtain ⟨others, hothers, hall⟩ := exists_of_bind_eq_ok h
          obtain ⟨hrest, rfl⟩ := ih.1 hothers
          exact ⟨⟨⟨hnamed, hprintable⟩, hrest⟩, (Except.ok.inj hall).symm⟩
        · rintro ⟨⟨-, hrest⟩, rfl⟩
          rw [bind_of_eq_ok (ih.2 ⟨hrest, rfl⟩)]
          rfl
      · obtain ⟨why, hwhy⟩ := ofValue_of_not_hasPrintableTexts hnamed hprintable
        rw [hwhy]
        simp [hprintable, bind, Except.bind]
    · rw [ofValue_of_nameless hnamed]
      simp [hnamed, bind, Except.bind]

/-- Where the entries in front are decisions, the next one that is none is reported. -/
theorem ofValues_append_eq_error {before after : List Value} {defect : DecisionDefect}
    (hbefore : ∀ entry ∈ before, IsNamed entry ∧ HasPrintableTexts levels entry)
    (h : ofValue levels (index + before.length) entry = .error defect) :
    ofValues levels index (before ++ entry :: after) = .error defect := by
  induction before generalizing index with
  | nil =>
    rw [List.nil_append, ofValues, show ofValue levels index entry = _ from h]
    rfl
  | cons first rest ih =>
    obtain ⟨⟨hnamed, hprintable⟩, hrest⟩ := List.forall_mem_cons.1 hbefore
    rw [List.cons_append, ofValues, bind_of_eq_ok (ofValue_of_isNamed hnamed hprintable), ih hrest]
    · rfl
    · rw [← h, List.length_cons, Nat.add_right_comm, Nat.add_assoc]

theorem ofValues_of_nameless {before after : List Value}
    (hbefore : ∀ entry ∈ before, IsNamed entry ∧ HasPrintableTexts levels entry) (h : ¬ IsNamed entry) :
    ofValues levels index (before ++ entry :: after) = .error (.noName (index + before.length)) :=
  ofValues_append_eq_error hbefore (ofValue_of_nameless h)

/-- **A text that cannot be written is come upon** exactly if it stands in front of the first entry without a
name. -/
theorem exists_unprintable_iff :
    (∃ place why, ofValues levels index items = .error (.unprintable place why)) ↔
      ∃ entry ∈ items.takeWhile (IsNamed ·), ¬ HasPrintableTexts levels entry := by
  induction items generalizing index with
  | nil => simp [ofValues]
  | cons entry rest ih =>
    rw [ofValues]
    by_cases hnamed : IsNamed entry
    · rw [List.takeWhile_cons_of_pos (by simpa using hnamed), List.exists_mem_cons_iff]
      by_cases hprintable : HasPrintableTexts levels entry
      · have hrest (place : Nat) (why : Datum.TextFault) :
            (ofValues levels (index + 1) rest >>= fun others => pure (takenFrom levels entry :: others)) =
                .error (.unprintable place why) ↔
              ofValues levels (index + 1) rest = .error (.unprintable place why) := by
          simp only [bind_eq_error_iff, pure_ne_error, and_false, exists_false, or_false]
        rw [bind_of_eq_ok (ofValue_of_isNamed hnamed hprintable), exists₂_congr hrest, ih]
        simp [hprintable]
      · have hnone : ∃ why, ofValue levels index entry = .error (.unprintable index why) :=
          ofValue_of_not_hasPrintableTexts hnamed hprintable
        obtain ⟨why, hwhy⟩ := hnone
        rw [hwhy]
        simp [hprintable, bind, Except.bind]
    · rw [ofValue_of_nameless hnamed, List.takeWhile_cons_of_neg (by simpa using hnamed)]
      simp [bind, Except.bind]

end Decision
end DashboardSynthesis
