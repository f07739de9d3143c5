import DashboardSynthesis.Proofs.Json.Reading

/-!
# Why a text is not read

A text that is not JSON is malformed.  Two other faults come of the limits, and each can be seen in the text:
an integer has too many digits only if so many digits stand behind one another, and values are nested too
deeply only if so many brackets and braces are opened (`faultFrom_of_read`).

The second one says more than it seems to.  The reader would call a text too deep also if its supply of calls
ran out, so the supply is enough for every text: two calls for each code point, and one or two more.
-/

namespace DashboardSynthesis
namespace Json

/-- Does a list or an object begin here? -/
def opensLevel (c : CodePoint) : Bool := c = .scalar '[' || c = .scalar '{'

/-- What a fault says of the text in which it came up, with `depth` levels of nesting left. -/
def FaultFrom (depth : ℕ) (t : Text) : Fault → Prop
  | .malformed _ _ => True
  | .tooManyDigits n => digitLimit < n ∧ ∃ digits, digits <:+: t ∧ Text.IsDigits digits ∧ digits.length = n
  | .tooDeep => depth < t.countP opensLevel

/-- What came up at the end of a text came up in the text. -/
theorem FaultFrom.of_suffix {depth : ℕ} {a b : Text} (h : a <:+ b) {fault : Fault}
    (hfault : FaultFrom depth a fault) : FaultFrom depth b fault := by
  cases fault with
  | malformed what left => trivial
  | tooManyDigits n =>
    obtain ⟨hlimit, digits, hdigits, hrest⟩ := hfault
    exact ⟨hlimit, digits, hdigits.trans h.isInfix, hrest⟩
  | tooDeep => exact lt_of_lt_of_le hfault h.sublist.countP_le

/-- Behind an opening bracket there is one level less. -/
theorem FaultFrom.of_level {depth : ℕ} {c : CodePoint} (hc : opensLevel c = true) {t : Text} {fault : Fault}
    (hfault : FaultFrom depth t fault) : FaultFrom (depth + 1) (c :: t) fault := by
  cases fault with
  | malformed what left => trivial
  | tooManyDigits n =>
    exact @FaultFrom.of_suffix (depth + 1) _ _ (List.suffix_cons c t) _ hfault
  | tooDeep =>
    show depth + 1 < _
    rw [List.countP_cons_of_pos hc]
    exact Nat.succ_lt_succ hfault

/-! ## Strings, numbers and words -/

/-- In a string nothing but the text can be wrong. -/
theorem exists_of_stringUnits_error {opening : ℕ} {t : Text} {fault : Fault}
    (h : stringUnits opening t = .error fault) : ∃ what left, fault = .malformed what left := by
  fun_induction stringUnits opening t
  case case2 => exact absurd h (by simp)
  case case5 ih | case8 ih | case10 ih =>
    rcases bind_eq_error_iff.1 h with h | ⟨⟨_, _⟩, _, h⟩
    · exact ih h
    · exact absurd h pure_ne_error
  all_goals exact ⟨_, _, (Except.error.inj h).symm⟩

theorem faultFrom_of_readString {depth : ℕ} {t t' : Text} {fault : Fault}
    (h : readString t = .error fault) : FaultFrom depth t' fault := by
  rcases bind_eq_error_iff.1 h with h | ⟨⟨_, _⟩, _, h⟩
  · obtain ⟨what, left, rfl⟩ := exists_of_stringUnits_error h
    trivial
  · exact absurd h pure_ne_error

/-- The whole part of a number stands in the text. -/
theorem spanWhole_fst_isPrefix (t : Text) : (spanWhole t).1 <+: t := by
  unfold spanWhole
  split
  · exact List.nil_prefix
  · split_ifs
    · exact ⟨_, rfl⟩
    · exact List.takeWhile_prefix _

theorem eq_tooManyDigits_of_numberOf {negative : Bool} {whole : Text} {fraction : Option Text}
    {exponent : Option ℤ} {fault : Fault} (h : numberOf negative whole fraction exponent = .error fault) :
    fault = .tooManyDigits whole.length ∧ digitLimit < whole.length := by
  unfold numberOf at h
  split at h
  · split_ifs at h with hlimit
    exact ⟨(Except.error.inj h).symm, hlimit⟩
  · exact absurd h (by simp)

theorem faultFrom_of_readNumber {depth : ℕ} {t : Text} {fault : Fault} (h : readNumber t = .error fault) :
    FaultFrom depth t fault := by
  rw [readNumber] at h
  dsimp only at h
  split_ifs at h
  · rw [← Except.error.inj h]
    trivial
  · obtain ⟨rfl, hlimit⟩ := eq_tooManyDigits_of_numberOf (eq_error_of_map_eq_error h)
    refine ⟨hlimit, _, ?_, (spanWhole_spec _).2, rfl⟩
    exact (spanWhole_fst_isPrefix _).isInfix.trans (spanSign_suffix t).isInfix

theorem faultFrom_of_readAtom {depth : ℕ} {t : Text} {fault : Fault} (h : readAtom t = .error fault) :
    FaultFrom depth t fault := by
  rw [readAtom] at h
  split at h
  · exact absurd h (by simp)
  · exact faultFrom_of_readNumber h

/-! ## Values -/

theorem readValue_error_cases {supply depth : ℕ} {t : Text} {fault : Fault}
    (h : readValue (supply + 1) depth t = .error fault) :
    (∃ t', t = .scalar '"' :: t' ∧ readString t' = .error fault) ∨
    (∃ c t', t = c :: t' ∧ opensLevel c = true ∧ (depth = 0 ∧ fault = .tooDeep ∨
      ∃ d, depth = d + 1 ∧ (readItems supply d (skipBlanks t') = .error fault ∨
        readMembers supply d [] (skipBlanks t') = .error fault))) ∨
    readAtom t = .error fault := by
  rw [readValue.eq_def] at h
  dsimp only at h
  split at h
  · next t' =>
    rcases bind_eq_error_iff.1 h with h | ⟨⟨_, _⟩, _, h⟩
    · exact Or.inl ⟨t', rfl, h⟩
    · exact absurd h pure_ne_error
  · next t' =>
    refine Or.inr (Or.inl ⟨_, t', rfl, by decide, ?_⟩)
    rcases depth with _ | d
    · exact Or.inl ⟨rfl, (Except.error.inj h).symm⟩
    · dsimp only at h
      split at h
      · exact absurd h (by simp)
      · rcases bind_eq_error_iff.1 h with h | ⟨⟨_, _⟩, _, h⟩
        · exact Or.inr ⟨d, rfl, Or.inl h⟩
        · exact absurd h pure_ne_error
  · next t' =>
    refine Or.inr (Or.inl ⟨_, t', rfl, by decide, ?_⟩)
    rcases depth with _ | d
    · exact Or.inl ⟨rfl, (Except.error.inj h).symm⟩
    · dsimp only at h
      split at h
      · exact absurd h (by simp)
      · rcases bind_eq_error_iff.1 h with h | ⟨⟨_, _⟩, _, h⟩
        · exact Or.inr ⟨d, rfl, Or.inr h⟩
        · exact absurd h pure_ne_error
  · exact Or.inr (Or.inr h)

theorem readItems_error_cases {supply depth : ℕ} {t : Text} {fault : Fault}
    (h : readItems (supply + 1) depth t = .error fault) :
    readValue supply depth t = .error fault ∨
    (∃ item behind after, readValue supply depth t = .ok (item, behind) ∧
      skipBlanks behind = .scalar ',' :: after ∧
      readItems supply depth (skipBlanks after) = .error fault) ∨
    ∃ what left, fault = .malformed what left := by
  rw [readItems] at h
  rcases bind_eq_error_iff.1 h with h | ⟨⟨item, behind⟩, hread, h⟩
  · exact Or.inl h
  · dsimp only at h
    split at h
    · exact absurd h pure_ne_error
    · next after hskip =>
      rcases bind_eq_error_iff.1 h with h | ⟨⟨_, _⟩, _, h⟩
      · exact Or.inr (Or.inl ⟨item, behind, after, hread, hskip, h⟩)
      · exact absurd h pure_ne_error
    · exact Or.inr (Or.inr ⟨_, _, (Except.error.inj h).symm⟩)

theorem readMembers_error_cases {supply depth : ℕ} {before : Members} {t : Text} {fault : Fault}
    (h : readMembers (supply + 1) depth before t = .error fault) :
    (∃ t', readString t' = .error fault) ∨
    (∃ t' key colon behind, t = .scalar '"' :: t' ∧ readString t' = .ok (key, colon) ∧
      skipBlanks colon = .scalar ':' :: behind ∧
      (readValue supply depth (skipBlanks behind) = .error fault ∨
        ∃ v after' after, readValue supply depth (skipBlanks behind) = .ok (v, after') ∧
          skipBlanks after' = .scalar ',' :: after ∧
          readMembers supply depth (before.set key v) (skipBlanks after) = .error fault)) ∨
    ∃ what left, fault = .malformed what left := by
  rw [readMembers.eq_def] at h
  dsimp only at h
  split at h
  · next t' =>
    rcases bind_eq_error_iff.1 h with h | ⟨⟨key, colon⟩, hkey, h⟩
    · exact Or.inl ⟨t', h⟩
    · dsimp only at h
      split at h
      · next behind hcolon =>
        rcases bind_eq_error_iff.1 h with h | ⟨⟨v, after'⟩, hread, h⟩
        · exact Or.inr (Or.inl ⟨t', key, colon, behind, rfl, hkey, hcolon, Or.inl h⟩)
        · dsimp only at h
          split at h
          · exact absurd h pure_ne_error
          · next after hskip =>
            exact Or.inr (Or.inl ⟨t', key, colon, behind, rfl, hkey, hcolon,
              Or.inr ⟨v, after', after, hread, hskip, h⟩⟩)
          · exact Or.inr (Or.inr ⟨_, _, (Except.error.inj h).symm⟩)
      · exact Or.inr (Or.inr ⟨_, _, (Except.error.inj h).symm⟩)
  · exact Or.inr (Or.inr ⟨_, _, (Except.error.inj h).symm⟩)

/-- What follows the blanks and the separator behind a stretch of a text is an end of it, and shorter. -/
theorem suffix_and_length_lt {t behind after : Text} {c : CodePoint} (h : behind <:+ t)
    (hskip : skipBlanks behind = c :: after) :
    skipBlanks after <:+ t ∧ (skipBlanks after).length < t.length := by
  have hafter : c :: after <:+ t := hskip ▸ (skipBlanks_suffix behind).trans h
  have hrest : skipBlanks after <:+ after := skipBlanks_suffix after
  have hlt : after.length + 1 ≤ t.length := hafter.length_le
  exact ⟨hrest.trans ((List.suffix_cons c after).trans hafter), lt_of_le_of_lt hrest.length_le hlt⟩

/-- Faults in reading one value, where the supply is enough for the text. -/
def ValueFails (supply : ℕ) : Prop := ∀ {depth : ℕ} {t : Text} {fault : Fault},
  2 * t.length + 1 ≤ supply → readValue supply depth t = .error fault → FaultFrom depth t fault

/-- Faults in reading the items of a list, where the supply is enough for the text. -/
def ItemsFail (supply : ℕ) : Prop := ∀ {depth : ℕ} {t : Text} {fault : Fault},
  2 * t.length + 2 ≤ supply → readItems supply depth t = .error fault → FaultFrom depth t fault

/-- Faults in reading the members of an object, where the supply is enough for the text. -/
def MembersFail (supply : ℕ) : Prop := ∀ {depth : ℕ} {before : Members} {t : Text} {fault : Fault},
  2 * t.length + 2 ≤ supply → readMembers supply depth before t = .error fault → FaultFrom depth t fault

theorem valueFails_succ {supply : ℕ} (hitems : ItemsFail supply) (hmembers : MembersFail supply) :
    ValueFails (supply + 1) := by
  intro depth t fault hsupply h
  rcases readValue_error_cases h with ⟨t', rfl, hstring⟩ |
    ⟨c, t', rfl, hc, ⟨rfl, rfl⟩ | ⟨d, rfl, hinner⟩⟩ | hatom
  · exact faultFrom_of_readString hstring
  · show 0 < _
    rw [List.countP_cons_of_pos hc]
    exact Nat.succ_pos _
  · have hinside : skipBlanks t' <:+ t' := skipBlanks_suffix t'
    have henough : 2 * (skipBlanks t').length + 2 ≤ supply := by
      have hle := hinside.length_le
      rw [List.length_cons] at hsupply
      omega
    refine FaultFrom.of_level hc (FaultFrom.of_suffix hinside ?_)
    rcases hinner with hlist | hobject
    · exact hitems henough hlist
    · exact hmembers henough hobject
  · exact faultFrom_of_readAtom hatom

theorem itemsFail_succ {supply : ℕ} (hvalue : ValueFails supply) (hitems : ItemsFail supply) :
    ItemsFail (supply + 1) := by
  intro depth t fault hsupply h
  rcases readItems_error_cases h with h | ⟨item, behind, after, hread, hskip, h⟩ | ⟨what, left, rfl⟩
  · exact hvalue (by omega) h
  · obtain ⟨hsuffix, hlt⟩ := suffix_and_length_lt ((reader_spec supply).1 hread).1 hskip
    exact (hitems (by omega) h).of_suffix hsuffix
  · trivial

theorem membersFail_succ {supply : ℕ} (hvalue : ValueFails supply) (hmembers : MembersFail supply) :
    MembersFail (supply + 1) := by
  intro depth before t fault hsupply h
  rcases readMembers_error_cases h with ⟨t', h⟩ |
    ⟨t', key, colon, behind, rfl, hkey, hcolon, hnext⟩ | ⟨what, left, rfl⟩
  · exact faultFrom_of_readString h
  · obtain ⟨raw, rfl, -⟩ := encodes_of_readString hkey
    have hcolonSuffix : colon <:+ .scalar '"' :: (raw ++ .scalar '"' :: colon) :=
      ⟨.scalar '"' :: (raw ++ [.scalar '"']), by simp⟩
    obtain ⟨hsuffix, hlt⟩ := suffix_and_length_lt hcolonSuffix hcolon
    rcases hnext with h | ⟨v, after', after, hread, hskip, h⟩
    · exact (hvalue (by omega) h).of_suffix hsuffix
    · obtain ⟨hsuffix', hlt'⟩ :=
        suffix_and_length_lt (((reader_spec supply).1 hread).1.trans hsuffix) hskip
      exact (hmembers (by omega) h).of_suffix hsuffix'
  · trivial

theorem reader_fails (supply : ℕ) : ValueFails supply ∧ ItemsFail supply ∧ MembersFail supply := by
  induction supply with
  | zero =>
    refine ⟨?_, ?_, ?_⟩
    · intro depth t fault hsupply
      omega
    · intro depth t fault hsupply
      omega
    · intro depth before t fault hsupply
      omega
  | succ supply ih =>
    obtain ⟨hvalue, hitems, hmembers⟩ := ih
    exact ⟨valueFails_succ hitems hmembers, itemsFail_succ hvalue hitems,
      membersFail_succ hvalue hmembers⟩

/-- **What a fault says of the text.** -/
theorem faultFrom_of_read {t : Text} {fault : Fault} (h : read t = .error fault) :
    FaultFrom nestingLimit t fault := by
  rw [read.eq_def] at h
  split at h
  · rw [← Except.error.inj h]
    trivial
  · rcases bind_eq_error_iff.1 h with h | ⟨⟨v, rest⟩, -, h⟩
    · have hsuffix : skipBlanks t <:+ t := skipBlanks_suffix t
      have hle := hsuffix.length_le
      exact ((reader_fails _).1 (by omega) h).of_suffix hsuffix
    · dsimp only at h
      split at h
      · exact absurd h pure_ne_error
      · rw [← Except.error.inj h]
        trivial

/-- A text that opens no more lists and objects than may be nested is not too deep. -/
theorem read_ne_tooDeep {t : Text} (h : t.countP opensLevel ≤ nestingLimit) : read t ≠ .error .tooDeep := by
  intro hread
  have hlevels : nestingLimit < t.countP opensLevel := faultFrom_of_read hread
  omega

end Json
end DashboardSynthesis
