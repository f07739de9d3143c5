import DashboardSynthesis.Json.Printer
import DashboardSynthesis.Proofs.Decimal.Nearest

/-!
# The parts of a value

`Each p v` says that the value `v`, the items and members inside it, and so on all the way down, have
the property `p`.  It is how this library says something of every part of a document, wherever the part
stands.

Normal values are the first use: `IsNormal` says that no object has a key twice, at any level, and that
floating-point numbers are canonical.  Replacing a member keeps both (`Members.nodup_set`,
`eachMember_set`).
-/

namespace DashboardSynthesis
namespace Json

mutual

/-- The value and all its parts have the property. -/
def Each (p : Json → Prop) : Json → Prop
  | .arr items => p (.arr items) ∧ EachItem p items
  | .obj members => p (.obj members) ∧ EachMember p members
  | v => p v

/-- The items and all their parts have the property. -/
def EachItem (p : Json → Prop) : List Json → Prop
  | [] => True
  | item :: items => item.Each p ∧ EachItem p items

/-- The values of the members and all their parts have the property. -/
def EachMember (p : Json → Prop) : List (Text × Json) → Prop
  | [] => True
  | (_, value) :: members => value.Each p ∧ EachMember p members

end

variable {p q : Json → Prop}

theorem Each.self {v : Json} (h : v.Each p) : p v := by
  cases v with
  | arr items => exact h.1
  | obj members => exact h.1
  | _ => exact h

theorem eachItem_iff {items : List Json} : EachItem p items ↔ ∀ v ∈ items, v.Each p := by
  induction items with
  | nil => exact ⟨fun _ _ h => absurd h List.not_mem_nil, fun _ => trivial⟩
  | cons item items ih => rw [EachItem, ih, List.forall_mem_cons]

theorem eachMember_iff {members : Members} :
    EachMember p members ↔ ∀ m ∈ members, m.2.Each p := by
  induction members with
  | nil => exact ⟨fun _ _ h => absurd h List.not_mem_nil, fun _ => trivial⟩
  | cons m members ih => rw [EachMember, ih, List.forall_mem_cons]

theorem eachItem_append {a b : List Json} (ha : EachItem p a) (hb : EachItem p b) :
    EachItem p (a ++ b) := by
  rw [eachItem_iff] at *
  exact List.forall_mem_append.2 ⟨ha, hb⟩

mutual

theorem Each.imp (h : ∀ v, p v → q v) : ∀ v : Json, v.Each p → v.Each q
  | .null, hv => h _ hv
  | .bool _, hv => h _ hv
  | .int _, hv => h _ hv
  | .float _, hv => h _ hv
  | .str _, hv => h _ hv
  | .arr items, hv => ⟨h _ hv.1, EachItem.imp h items hv.2⟩
  | .obj members, hv => ⟨h _ hv.1, EachMember.imp h members hv.2⟩

theorem EachItem.imp (h : ∀ v, p v → q v) : ∀ items, EachItem p items → EachItem q items
  | [], _ => trivial
  | item :: items, hv => ⟨Each.imp h item hv.1, EachItem.imp h items hv.2⟩

theorem EachMember.imp (h : ∀ v, p v → q v) : ∀ members, EachMember p members → EachMember q members
  | [], _ => trivial
  | (_, value) :: members, hv => ⟨Each.imp h value hv.1, EachMember.imp h members hv.2⟩

end

/-! ## Members -/

namespace Members

theorem mem_of_get? {members : Members} {key : Text} {v : Json} (h : members.get? key = some v) :
    (key, v) ∈ members := by
  induction members with
  | nil => exact absurd h (by simp [get?])
  | cons m members ih =>
    rw [get?] at h
    split_ifs at h with hk
    · rw [← hk, ← Option.some_inj.1 h]
      exact List.mem_cons_self
    · exact List.mem_cons_of_mem m (ih h)

theorem get?_eq_none_iff {members : Members} {key : Text} :
    members.get? key = none ↔ key ∉ members.keys := by
  induction members with
  | nil => simp [get?, keys]
  | cons m members ih =>
    rw [get?, keys, List.map_cons, List.mem_cons, not_or]
    split_ifs with hk
    · simp [hk]
    · rw [ih]
      exact ⟨fun h => ⟨fun heq => hk heq.symm, h⟩, And.right⟩

/-- Setting a value keeps the keys in order, with a new one behind them. -/
theorem keys_set (members : Members) (key : Text) (v : Json) :
    (members.set key v).keys = if key ∈ members.keys then members.keys else members.keys ++ [key] := by
  induction members with
  | nil => rfl
  | cons m members ih =>
    rw [set]
    split_ifs with hk hmem hmem
    · simp [keys, hk]
    · exact absurd (List.mem_map.2 ⟨m, List.mem_cons_self, hk⟩) hmem
    · have : key ∈ keys members := by
        rcases List.mem_cons.1 hmem with h | h
        · exact absurd h.symm hk
        · exact h
      show m.1 :: keys (set members key v) = _
      rw [ih, if_pos this]
      rfl
    · have : key ∉ keys members := fun h => hmem (List.mem_cons_of_mem _ h)
      show m.1 :: keys (set members key v) = _
      rw [ih, if_neg this]
      rfl

theorem set_of_not_mem {members : Members} {key : Text} (h : key ∉ members.keys) (v : Json) :
    members.set key v = members ++ [(key, v)] := by
  induction members with
  | nil => rfl
  | cons m members ih =>
    rw [keys, List.map_cons, List.mem_cons, not_or] at h
    rw [set, if_neg fun heq => h.1 heq.symm, ih h.2]
    rfl

/-- Setting a value that is there already changes nothing. -/
theorem set_of_get? {members : Members} {key : Text} {v : Json} (h : members.get? key = some v) :
    members.set key v = members := by
  induction members with
  | nil => exact absurd h (by simp [get?])
  | cons m members ih =>
    rw [get?] at h
    rw [set]
    split_ifs at h ⊢ with hk
    · rw [← hk, ← Option.some_inj.1 h]
    · rw [ih h]

/-- Of two values for one key the last stays. -/
theorem set_set (members : Members) (key : Text) (v w : Json) :
    (members.set key v).set key w = members.set key w := by
  induction members with
  | nil => simp [set]
  | cons m members ih =>
    rw [set, set]
    split_ifs with hk
    · rw [set, if_pos rfl]
    · rw [set, if_neg hk, ih]

theorem nodup_set {members : Members} (h : members.keys.Nodup) (key : Text) (v : Json) :
    (members.set key v).keys.Nodup := by
  rw [keys_set]
  split_ifs with hmem
  · exact h
  · rw [List.nodup_append]
    refine ⟨h, List.nodup_singleton key, ?_⟩
    intro a ha b hb hab
    rw [hab, List.mem_singleton.1 hb] at ha
    exact hmem ha

theorem mem_set {members : Members} {key : Text} {v : Json} {m : Text × Json}
    (h : m ∈ members.set key v) : m = (key, v) ∨ m ∈ members := by
  induction members with
  | nil => exact Or.inl (List.mem_singleton.1 h)
  | cons m' members ih =>
    rw [set] at h
    split_ifs at h with hk
    · rcases List.mem_cons.1 h with h | h
      · exact Or.inl h
      · exact Or.inr (List.mem_cons_of_mem _ h)
    · rcases List.mem_cons.1 h with h | h
      · exact Or.inr (h ▸ List.mem_cons_self)
      · rcases ih h with h | h
        · exact Or.inl h
        · exact Or.inr (List.mem_cons_of_mem _ h)

theorem get?_append (a b : Members) (key : Text) :
    get? (a ++ b) key = (a.get? key).or (b.get? key) := by
  induction a with
  | nil => rfl
  | cons m a ih =>
    rw [List.cons_append, get?, get?]
    split_ifs with hk
    · rfl
    · exact ih

/-! ### Values that are set where there is none -/

theorem setDefault_of_some {members : Members} {key : Text} {v : Json}
    (h : members.get? key = some v) (w : Json) : members.setDefault key w = members := by
  rw [setDefault, h]

theorem setDefault_of_none {members : Members} {key : Text} (h : members.get? key = none) (w : Json) :
    members.setDefault key w = members ++ [(key, w)] := by
  rw [setDefault, h]

theorem get?_setDefault_self (members : Members) (key : Text) (w : Json) :
    (members.setDefault key w).get? key = some ((members.get? key).getD w) := by
  cases h : members.get? key with
  | some v => rw [setDefault_of_some h, h, Option.getD_some]
  | none =>
    rw [setDefault_of_none h, get?_append, h, Option.none_or, get?, if_pos rfl, Option.getD_none]

theorem get?_setDefault_of_ne (members : Members) {key other : Text} (w : Json) (hne : other ≠ key) :
    (members.setDefault key w).get? other = members.get? other := by
  cases h : members.get? key with
  | some v => rw [setDefault_of_some h]
  | none =>
    rw [setDefault_of_none h, get?_append, get?, if_neg hne.symm, get?, Option.or_none]

theorem mem_setDefault {members : Members} {key : Text} {w : Json} {m : Text × Json}
    (h : m ∈ members.setDefault key w) : m = (key, w) ∨ m ∈ members := by
  cases hget : members.get? key with
  | some v =>
    rw [setDefault_of_some hget] at h
    exact Or.inr h
  | none =>
    rw [setDefault_of_none hget, List.mem_append, List.mem_singleton] at h
    exact h.symm

theorem nodup_setDefault {members : Members} (h : members.keys.Nodup) (key : Text) (w : Json) :
    (members.setDefault key w).keys.Nodup := by
  cases hget : members.get? key with
  | some v =>
    rw [setDefault_of_some hget]
    exact h
  | none =>
    have hset : members.setDefault key w = members.set key w := by
      rw [setDefault_of_none hget, set_of_not_mem (get?_eq_none_iff.1 hget)]
    rw [hset]
    exact nodup_set h key w

end Members

theorem Each.get? {members : Members} (h : EachMember p members) {key : Text} {v : Json}
    (hv : members.get? key = some v) : v.Each p :=
  eachMember_iff.1 h _ (Members.mem_of_get? hv)

theorem Each.value {v w : Json} {key : Text} (h : v.Each p) (hw : v.get? key = some w) : w.Each p := by
  cases v with
  | obj members => exact Each.get? h.2 hw
  | _ => exact absurd hw (by simp [Json.get?])

theorem eachMember_set {members : Members} (h : EachMember p members) (key : Text) {v : Json}
    (hv : v.Each p) : EachMember p (members.set key v) := by
  rw [eachMember_iff] at *
  intro m hm
  rcases Members.mem_set hm with rfl | hm
  · exact hv
  · exact h m hm

theorem eachMember_setDefault {members : Members} (h : EachMember p members) (key : Text) {v : Json}
    (hv : v.Each p) : EachMember p (members.setDefault key v) := by
  rw [eachMember_iff] at *
  intro m hm
  rcases Members.mem_setDefault hm with rfl | hm
  · exact hv
  · exact h m hm

/-! ## Depths -/

theorem itemsDepth_le_iff {items : List Json} {d : ℕ} :
    itemsDepth items ≤ d ↔ ∀ v ∈ items, v.depth ≤ d := by
  induction items with
  | nil => exact ⟨fun _ _ h => absurd h List.not_mem_nil, fun _ => Nat.zero_le d⟩
  | cons item items ih => rw [itemsDepth, max_le_iff, ih, List.forall_mem_cons]

theorem membersDepth_le_iff {members : Members} {d : ℕ} :
    membersDepth members ≤ d ↔ ∀ m ∈ members, m.2.depth ≤ d := by
  induction members with
  | nil => exact ⟨fun _ _ h => absurd h List.not_mem_nil, fun _ => Nat.zero_le d⟩
  | cons m members ih => rw [membersDepth, max_le_iff, ih, List.forall_mem_cons]

theorem membersDepth_set {members : Members} {key : Text} {v : Json} {d : ℕ}
    (h : membersDepth members ≤ d) (hv : v.depth ≤ d) : membersDepth (members.set key v) ≤ d := by
  rw [membersDepth_le_iff] at *
  intro m hm
  rcases Members.mem_set hm with rfl | hm
  · exact hv
  · exact h m hm

/-! ## Normal values -/

/-- No key stands twice in this object, and this number is canonical. -/
def LocallyNormal : Json → Prop
  | .float x => x.IsCanonical
  | .obj members => (Members.keys members).Nodup
  | _ => True

/-- Keys are unique at every level, and numbers are canonical. -/
def IsNormal (v : Json) : Prop := v.Each LocallyNormal

end Json
end DashboardSynthesis
