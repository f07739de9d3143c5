import DashboardSynthesis.Json.Printer
import DashboardSynthesis.Proofs.Decimal.Digits
import DashboardSynthesis.Proofs.Json.Parts
import DashboardSynthesis.Proofs.Json.StringBody
import Mathlib.Data.List.Infix
import Mathlib.Data.List.TakeWhile

/-!
# What is read

`ReadFrom t v` says what is known of a value that was read out of the text `t`: an integer keeps the
digit limit, a floating-point number is canonical, an object has each key once, and a string comes from
a stretch of `t` between quotes.  All parts of what `read` returns are like that, and they are nested no
deeper than the limit allows (`each_readFrom_of_read`).  So what is read is normal
(`isNormal_of_read`).

The reader's three functions call one another, and each call has a smaller supply; one induction on the
supply carries the statements about all three.
-/

namespace DashboardSynthesis
namespace Json

/-- What is known of a value read out of `t`. -/
def ReadFrom (t : Text) : Json → Prop
  | .int n => (Json.int n).isPrintable = true
  | .float x => x.IsCanonical
  | .str s => ∃ p raw q, t = p ++ .scalar '"' :: (raw ++ .scalar '"' :: q) ∧ Encodes raw s
  | .obj members => (Members.keys members).Nodup
  | _ => True

/-- What is read out of the end of a text is read out of the text. -/
theorem ReadFrom.of_suffix {a b : Text} (h : a <:+ b) {v : Json} (hv : v.ReadFrom a) :
    v.ReadFrom b := by
  cases v with
  | str s =>
    obtain ⟨p', rfl⟩ := h
    obtain ⟨p, raw, q, rfl, hraw⟩ := hv
    exact ⟨p' ++ p, raw, q, by rw [List.append_assoc], hraw⟩
  | _ => exact hv

theorem Each.of_suffix {a b : Text} (h : a <:+ b) {v : Json} (hv : v.Each (ReadFrom a)) :
    v.Each (ReadFrom b) :=
  Each.imp (fun _ => ReadFrom.of_suffix h) v hv

/-! ## Numbers and words -/

theorem skipBlanks_suffix (t : Text) : skipBlanks t <:+ t := List.dropWhile_suffix _

theorem suffix_of_dropPrefix? {start t rest : Text} (h : Text.dropPrefix? start t = some rest) :
    rest <:+ t := by
  induction start generalizing t with
  | nil =>
    rw [Text.dropPrefix?, Option.some_inj] at h
    exact h ▸ List.suffix_rfl
  | cons a start ih =>
    cases t with
    | nil => exact absurd h (by simp [Text.dropPrefix?])
    | cons b t =>
      rw [Text.dropPrefix?] at h
      split_ifs at h
      exact (ih h).trans (List.suffix_cons b t)

theorem spanSign_suffix (t : Text) : (spanSign t).2 <:+ t := by
  unfold spanSign
  split
  · exact List.suffix_cons _ _
  · exact List.suffix_rfl

theorem spanDigits_suffix (t : Text) : (spanDigits t).2 <:+ t := List.dropWhile_suffix _

theorem spanDigits_isDigits (t : Text) : Text.IsDigits (spanDigits t).1 := fun _ hc =>
  List.mem_takeWhile_imp hc

theorem spanWhole_spec (t : Text) : (spanWhole t).2 <:+ t ∧ Text.IsDigits (spanWhole t).1 := by
  unfold spanWhole
  split
  · exact ⟨List.suffix_rfl, fun _ hc => absurd hc List.not_mem_nil⟩
  · next c rest =>
    split_ifs with hc
    · refine ⟨List.suffix_cons c rest, fun d hd => ?_⟩
      rw [List.mem_singleton.1 hd, hc]
      rfl
    · exact ⟨spanDigits_suffix _, spanDigits_isDigits _⟩

theorem spanFraction_suffix (t : Text) : (spanFraction t).2 <:+ t := by
  unfold spanFraction
  split
  · dsimp only
    split_ifs
    · exact List.suffix_rfl
    · exact (spanDigits_suffix _).trans (List.suffix_cons _ _)
  · exact List.suffix_rfl

theorem spanExponentSign_suffix (t : Text) : (spanExponentSign t).2 <:+ t := by
  unfold spanExponentSign
  split
  · exact List.suffix_cons _ _
  · exact List.suffix_cons _ _
  · exact List.suffix_rfl

theorem spanExponent_suffix (t : Text) : (spanExponent t).2 <:+ t := by
  unfold spanExponent
  split
  · exact List.suffix_rfl
  · next e rest =>
    dsimp only
    split_ifs
    · exact List.suffix_rfl
    · exact ((spanDigits_suffix _).trans (spanExponentSign_suffix rest)).trans
        (List.suffix_cons e rest)
    · exact ((spanDigits_suffix _).trans (spanExponentSign_suffix rest)).trans
        (List.suffix_cons e rest)
    · exact List.suffix_rfl

/-- An integer under the digit limit, or a canonical floating-point number. -/
def IsNumber (v : Json) : Prop :=
  (∃ n, v = .int n ∧ (Json.int n).isPrintable = true) ∨ ∃ x, v = .float x ∧ x.IsCanonical

theorem numberOf_spec {negative : Bool} {whole : Text} {fraction : Option Text} {exponent : Option ℤ}
    {v : Json} (hdigits : Text.IsDigits whole) (hne : whole ≠ [])
    (h : numberOf negative whole fraction exponent = .ok v) : v.IsNumber := by
  unfold numberOf at h
  split at h
  · by_cases hlimit : digitLimit < whole.length
    · rw [if_pos hlimit] at h
      exact absurd h (by simp)
    rw [if_neg hlimit] at h
    refine Or.inl ⟨_, (Except.ok.inj h).symm, ?_⟩
    -- a numeral has at least as many digits as the number it denotes
    have hlt := Text.digitsValue_lt hdigits
    have hlength := (Nat.length_toDigits_le_iff (by norm_num) (List.length_pos_iff.2 hne)).2 hlt
    have habs : (if negative = true then -(Text.digitsValue whole : ℤ)
        else Text.digitsValue whole).natAbs = Text.digitsValue whole := by
      split_ifs <;> simp
    rw [isPrintable, habs]
    exact decide_eq_true (hlength.trans (Nat.not_lt.1 hlimit))
  · exact Or.inr ⟨_, (Except.ok.inj h).symm, Binary64.ofDecimal_isCanonical _ _ _⟩

theorem readNumber_spec {t rest : Text} {v : Json} (h : readNumber t = .ok (v, rest)) :
    rest <:+ t ∧ v.IsNumber := by
  rw [readNumber] at h
  dsimp only at h
  split_ifs at h with hempty
  · exact absurd h (by simp [malformed])
  · obtain ⟨v', hv, heq⟩ := exists_of_map_eq_ok h
    obtain ⟨rfl, rfl⟩ := Prod.mk.inj heq
    obtain ⟨hwhole, hdigits⟩ := spanWhole_spec (spanSign t).2
    exact ⟨(spanExponent_suffix _).trans ((spanFraction_suffix _).trans
      (hwhole.trans (spanSign_suffix t))), numberOf_spec hdigits (by simpa using hempty) hv⟩

theorem readAtom_spec {t rest : Text} {v : Json} (h : readAtom t = .ok (v, rest)) :
    rest <:+ t ∧ (v.IsNumber ∨ v = .null ∨ ∃ b, v = .bool b) := by
  rw [readAtom] at h
  split at h
  · next result hword =>
    obtain ⟨⟨word, value⟩, hmem, hdrop⟩ := List.exists_of_findSome?_eq_some hword
    obtain ⟨after, hafter, rfl⟩ := Option.map_eq_some_iff.1 hdrop
    obtain ⟨rfl, rfl⟩ := Prod.mk.inj (Except.ok.inj h)
    refine ⟨suffix_of_dropPrefix? hafter, ?_⟩
    simp only [words, List.mem_cons, List.not_mem_nil, or_false, Prod.mk.injEq] at hmem
    rcases hmem with ⟨-, rfl⟩ | ⟨-, rfl⟩ | ⟨-, rfl⟩ | ⟨-, rfl⟩ | ⟨-, rfl⟩ | ⟨-, rfl⟩
    · exact Or.inr (Or.inl rfl)
    · exact Or.inr (Or.inr ⟨true, rfl⟩)
    · exact Or.inr (Or.inr ⟨false, rfl⟩)
    all_goals exact Or.inl (Or.inr ⟨_, rfl, trivial⟩)
  · obtain ⟨hsuffix, hnumber⟩ := readNumber_spec h
    exact ⟨hsuffix, Or.inl hnumber⟩

/-! ## Values -/

theorem readValue_cases {supply depth : ℕ} {t rest : Text} {v : Json}
    (h : readValue (supply + 1) depth t = .ok (v, rest)) :
    (∃ t' s, t = .scalar '"' :: t' ∧ readString t' = .ok (s, rest) ∧ v = .str s) ∨
    (∃ t' d items, t = .scalar '[' :: t' ∧ depth = d + 1 ∧ v = .arr items ∧
      (skipBlanks t' = .scalar ']' :: rest ∧ items = [] ∨
        readItems supply d (skipBlanks t') = .ok (items, rest))) ∨
    (∃ t' d members, t = .scalar '{' :: t' ∧ depth = d + 1 ∧ v = .obj members ∧
      (skipBlanks t' = .scalar '}' :: rest ∧ members = [] ∨
        readMembers supply d [] (skipBlanks t') = .ok (members, rest))) ∨
    readAtom t = .ok (v, rest) := by
  rw [readValue.eq_def] at h
  dsimp only at h
  split at h
  · next t' =>
    obtain ⟨⟨s, after⟩, hread, heq⟩ := exists_of_bind_eq_ok h
    obtain ⟨rfl, rfl⟩ := Prod.mk.inj (Except.ok.inj heq)
    exact Or.inl ⟨t', s, rfl, hread, rfl⟩
  · next t' =>
    refine Or.inr (Or.inl ?_)
    rcases depth with _ | d
    · exact absurd h (by simp)
    · dsimp only at h
      split at h
      · next after hskip =>
        obtain ⟨rfl, rfl⟩ := Prod.mk.inj (Except.ok.inj h)
        exact ⟨t', d, [], rfl, rfl, rfl, Or.inl ⟨hskip, rfl⟩⟩
      · obtain ⟨⟨items, after⟩, hread, heq⟩ := exists_of_bind_eq_ok h
        obtain ⟨rfl, rfl⟩ := Prod.mk.inj (Except.ok.inj heq)
        exact ⟨t', d, items, rfl, rfl, rfl, Or.inr hread⟩
  · next t' =>
    refine Or.inr (Or.inr (Or.inl ?_))
    rcases depth with _ | d
    · exact absurd h (by simp)
    · dsimp only at h
      split at h
      · next after hskip =>
        obtain ⟨rfl, rfl⟩ := Prod.mk.inj (Except.ok.inj h)
        exact ⟨t', d, [], rfl, rfl, rfl, Or.inl ⟨hskip, rfl⟩⟩
      · obtain ⟨⟨members, after⟩, hread, heq⟩ := exists_of_bind_eq_ok h
        obtain ⟨rfl, rfl⟩ := Prod.mk.inj (Except.ok.inj heq)
        exact ⟨t', d, members, rfl, rfl, rfl, Or.inr hread⟩
  · exact Or.inr (Or.inr (Or.inr h))

theorem readItems_cases {supply depth : ℕ} {t rest : Text} {items : List Json}
    (h : readItems (supply + 1) depth t = .ok (items, rest)) :
    ∃ item behind, readValue supply depth t = .ok (item, behind) ∧
      (skipBlanks behind = .scalar ']' :: rest ∧ items = [item] ∨
        ∃ after more, skipBlanks behind = .scalar ',' :: after ∧
          readItems supply depth (skipBlanks after) = .ok (more, rest) ∧ items = item :: more) := by
  rw [readItems] at h
  obtain ⟨⟨item, behind⟩, hread, h⟩ := exists_of_bind_eq_ok h
  refine ⟨item, behind, hread, ?_⟩
  dsimp only at h
  split at h
  · next after hskip =>
    obtain ⟨rfl, rfl⟩ := Prod.mk.inj (Except.ok.inj h)
    exact Or.inl ⟨hskip, rfl⟩
  · next after hskip =>
    obtain ⟨⟨more, after'⟩, hmore, heq⟩ := exists_of_bind_eq_ok h
    obtain ⟨rfl, rfl⟩ := Prod.mk.inj (Except.ok.inj heq)
    exact Or.inr ⟨after, more, hskip, hmore, rfl⟩
  · exact absurd h (by simp [malformed])

theorem readMembers_cases {supply depth : ℕ} {before members : Members} {t rest : Text}
    (h : readMembers (supply + 1) depth before t = .ok (members, rest)) :
    ∃ t' key colon behind v after', t = .scalar '"' :: t' ∧ readString t' = .ok (key, colon) ∧
      skipBlanks colon = .scalar ':' :: behind ∧
      readValue supply depth (skipBlanks behind) = .ok (v, after') ∧
      (skipBlanks after' = .scalar '}' :: rest ∧ members = before.set key v ∨
        ∃ after, skipBlanks after' = .scalar ',' :: after ∧
          readMembers supply depth (before.set key v) (skipBlanks after) = .ok (members, rest)) := by
  rw [readMembers.eq_def] at h
  dsimp only at h
  split at h
  · next t' =>
    obtain ⟨⟨key, colon⟩, hkey, h⟩ := exists_of_bind_eq_ok h
    dsimp only at h
    split at h
    · next behind hcolon =>
      obtain ⟨⟨v, after'⟩, hread, h⟩ := exists_of_bind_eq_ok h
      refine ⟨t', key, colon, behind, v, after', rfl, hkey, hcolon, hread, ?_⟩
      dsimp only at h
      split at h
      · next hskip =>
        obtain ⟨rfl, rfl⟩ := Prod.mk.inj (Except.ok.inj h)
        exact Or.inl ⟨hskip, rfl⟩
      · next after hskip => exact Or.inr ⟨after, hskip, h⟩
      · exact absurd h (by simp [malformed])
    · exact absurd h (by simp [malformed])
  · exact absurd h (by simp [malformed])

/-- What reading one value says of it. -/
def ValueRead (supply : ℕ) : Prop := ∀ {depth : ℕ} {t rest : Text} {v : Json},
  readValue supply depth t = .ok (v, rest) → rest <:+ t ∧ v.Each (ReadFrom t) ∧ v.depth ≤ depth

/-- What reading the items of a list says of them. -/
def ItemsRead (supply : ℕ) : Prop := ∀ {depth : ℕ} {t rest : Text} {items : List Json},
  readItems supply depth t = .ok (items, rest) →
    rest <:+ t ∧ EachItem (ReadFrom t) items ∧ itemsDepth items ≤ depth

/-- What reading the members of an object says of them, if it holds of those that were read before. -/
def MembersRead (supply : ℕ) : Prop := ∀ {depth : ℕ} {whole t rest : Text} {before members : Members},
  readMembers supply depth before t = .ok (members, rest) → t <:+ whole → before.keys.Nodup →
    EachMember (ReadFrom whole) before → membersDepth before ≤ depth →
    rest <:+ t ∧ members.keys.Nodup ∧ EachMember (ReadFrom whole) members ∧
      membersDepth members ≤ depth

theorem valueRead_succ {supply : ℕ} (hitems : ItemsRead supply) (hmembers : MembersRead supply) :
    ValueRead (supply + 1) := by
  intro depth t rest v h
  rcases readValue_cases h with ⟨t', s, rfl, hread, rfl⟩ | ⟨t', d, items, rfl, rfl, rfl, hread⟩ |
    ⟨t', d, members, rfl, rfl, rfl, hread⟩ | hread
  · obtain ⟨raw, rfl, hraw⟩ := encodes_of_readString hread
    exact ⟨⟨.scalar '"' :: (raw ++ [.scalar '"']), by simp⟩, ⟨[], raw, rest, rfl, hraw⟩,
      Nat.zero_le _⟩
  · have hbehind : skipBlanks t' <:+ .scalar '[' :: t' :=
      (skipBlanks_suffix t').trans (List.suffix_cons _ _)
    rcases hread with ⟨hskip, rfl⟩ | hread
    · rw [hskip] at hbehind
      exact ⟨(List.suffix_cons _ _).trans hbehind, ⟨trivial, trivial⟩, Nat.succ_le_succ (Nat.zero_le _)⟩
    · obtain ⟨hsuffix, heach, hdepth⟩ := hitems hread
      refine ⟨hsuffix.trans hbehind, ⟨trivial, ?_⟩, Nat.succ_le_succ hdepth⟩
      exact EachItem.imp (fun _ => ReadFrom.of_suffix hbehind) _ heach
  · have hbehind : skipBlanks t' <:+ .scalar '{' :: t' :=
      (skipBlanks_suffix t').trans (List.suffix_cons _ _)
    rcases hread with ⟨hskip, rfl⟩ | hread
    · rw [hskip] at hbehind
      exact ⟨(List.suffix_cons _ _).trans hbehind, ⟨List.nodup_nil, trivial⟩,
        Nat.succ_le_succ (Nat.zero_le _)⟩
    · obtain ⟨hsuffix, hnodup, heach, hdepth⟩ :=
        hmembers hread hbehind List.nodup_nil trivial (Nat.zero_le _)
      exact ⟨hsuffix.trans hbehind, ⟨hnodup, heach⟩, Nat.succ_le_succ hdepth⟩
  · obtain ⟨hsuffix, hatom⟩ := readAtom_spec hread
    refine ⟨hsuffix, ?_⟩
    rcases hatom with (⟨n, rfl, hn⟩ | ⟨x, rfl, hx⟩) | rfl | ⟨b, rfl⟩
    · exact ⟨hn, Nat.zero_le _⟩
    · exact ⟨hx, Nat.zero_le _⟩
    · exact ⟨trivial, Nat.zero_le _⟩
    · exact ⟨trivial, Nat.zero_le _⟩

theorem itemsRead_succ {supply : ℕ} (hvalue : ValueRead supply) (hitems : ItemsRead supply) :
    ItemsRead (supply + 1) := by
  intro depth t rest items h
  obtain ⟨item, behind, hread, hnext⟩ := readItems_cases h
  obtain ⟨hsuffix, heach, hdepth⟩ := hvalue hread
  have hbehind : skipBlanks behind <:+ t := (skipBlanks_suffix behind).trans hsuffix
  rcases hnext with ⟨hskip, rfl⟩ | ⟨after, more, hskip, hmore, rfl⟩
  · rw [hskip] at hbehind
    exact ⟨(List.suffix_cons _ _).trans hbehind, ⟨heach, trivial⟩, max_le hdepth (Nat.zero_le _)⟩
  · rw [hskip] at hbehind
    have hafter : skipBlanks after <:+ t :=
      (skipBlanks_suffix after).trans ((List.suffix_cons _ _).trans hbehind)
    obtain ⟨hsuffix', heach', hdepth'⟩ := hitems hmore
    exact ⟨hsuffix'.trans hafter,
      ⟨heach, EachItem.imp (fun _ => ReadFrom.of_suffix hafter) _ heach'⟩, max_le hdepth hdepth'⟩

theorem membersRead_succ {supply : ℕ} (hvalue : ValueRead supply) (hmembers : MembersRead supply) :
    MembersRead (supply + 1) := by
  intro depth whole t rest before members h hwhole hnodup hbefore hdepthBefore
  obtain ⟨t', key, colon, behind, v, after', rfl, hkey, hcolon, hread, hnext⟩ := readMembers_cases h
  obtain ⟨raw, rfl, -⟩ := encodes_of_readString hkey
  have hcolonSuffix : colon <:+ .scalar '"' :: (raw ++ .scalar '"' :: colon) :=
    ⟨.scalar '"' :: (raw ++ [.scalar '"']), by simp⟩
  have hvalueSuffix : skipBlanks behind <:+ .scalar '"' :: (raw ++ .scalar '"' :: colon) := by
    have := (skipBlanks_suffix colon).trans hcolonSuffix
    rw [hcolon] at this
    exact (skipBlanks_suffix behind).trans ((List.suffix_cons _ _).trans this)
  obtain ⟨hsuffix, heach, hdepth⟩ := hvalue hread
  have hafter := (skipBlanks_suffix after').trans (hsuffix.trans hvalueSuffix)
  have hset : EachMember (ReadFrom whole) (before.set key v) :=
    eachMember_set hbefore key (heach.of_suffix (hvalueSuffix.trans hwhole))
  have hdepthSet : membersDepth (before.set key v) ≤ depth := membersDepth_set hdepthBefore hdepth
  rcases hnext with ⟨hskip, rfl⟩ | ⟨after, hskip, hmore⟩
  · rw [hskip] at hafter
    exact ⟨(List.suffix_cons _ _).trans hafter, Members.nodup_set hnodup key v, hset, hdepthSet⟩
  · rw [hskip] at hafter
    have hrest : skipBlanks after <:+ .scalar '"' :: (raw ++ .scalar '"' :: colon) :=
      (skipBlanks_suffix after).trans ((List.suffix_cons _ _).trans hafter)
    obtain ⟨hsuffix', h'⟩ :=
      hmembers hmore (hrest.trans hwhole) (Members.nodup_set hnodup key v) hset hdepthSet
    exact ⟨hsuffix'.trans hrest, h'⟩

theorem reader_spec (supply : ℕ) : ValueRead supply ∧ ItemsRead supply ∧ MembersRead supply := by
  induction supply with
  | zero =>
    refine ⟨?_, ?_, ?_⟩
    · intro depth t rest v h
      exact absurd h (by simp [readValue])
    · intro depth t rest items h
      exact absurd h (by simp [readItems])
    · intro depth whole t rest before members h
      exact absurd h (by simp [readMembers])
  | succ supply ih =>
    obtain ⟨hvalue, hitems, hmembers⟩ := ih
    exact ⟨valueRead_succ hitems hmembers, itemsRead_succ hvalue hitems,
      membersRead_succ hvalue hmembers⟩

/-- **What is read comes from the text.** -/
theorem each_readFrom_of_read {t : Text} {v : Json} (h : read t = .ok v) :
    v.Each (ReadFrom t) ∧ v.depth ≤ nestingLimit := by
  rw [read.eq_def] at h
  split at h
  · exact absurd h (by simp [malformed])
  · obtain ⟨⟨value, rest⟩, hread, h⟩ := exists_of_bind_eq_ok h
    dsimp only at h
    split at h
    · obtain rfl := Except.ok.inj h
      obtain ⟨-, heach, hdepth⟩ := (reader_spec _).1 hread
      exact ⟨heach.of_suffix (skipBlanks_suffix t), hdepth⟩
    · exact absurd h (by simp [malformed])

/-- **What is read is normal.** -/
theorem isNormal_of_read {t : Text} {v : Json} (h : read t = .ok v) : v.IsNormal := by
  refine Each.imp ?_ v (each_readFrom_of_read h).1
  intro w hw
  cases w with
  | float x => exact hw
  | obj members => exact hw
  | _ => trivial

end Json
end DashboardSynthesis
