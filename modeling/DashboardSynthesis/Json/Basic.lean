import DashboardSynthesis.Decimal.Binary64
import DashboardSynthesis.Text.Basic

/-!
# JSON values

An object is a list of members in the order in which they stand, with each key at most once.
`Members.set` keeps both: a key that is there keeps its place, a new one goes to the end.

Numbers without a point and an exponent are exact integers of any size, the others are 64-bit
floating-point numbers, so that what is read can be written again without loss.
-/

namespace DashboardSynthesis

/-- A JSON value. -/
inductive Json where
  | null
  | bool (value : Bool)
  | int (value : Int)
  | float (value : Binary64)
  | str (value : Text)
  | arr (items : List Json)
  | obj (members : List (Text × Json))

namespace Json

/-- The members of an object, in order. -/
abbrev Members := List (Text × Json)

namespace Members

/-- The value under a key. -/
def get? : Members → Text → Option Json
  | [], _ => none
  | (k, v) :: rest, key => if k = key then some v else get? rest key

/-- The members with `value` under `key`: in the old place if there is one, else at the end. -/
def set : Members → Text → Json → Members
  | [], key, value => [(key, value)]
  | (k, v) :: rest, key, value =>
    if k = key then (key, value) :: rest else (k, v) :: set rest key value

/-- The members with `value` at the end, unless the key has a value already. -/
def setDefault (members : Members) (key : Text) (value : Json) : Members :=
  match members.get? key with
  | some _ => members
  | none => members ++ [(key, value)]

/-- The keys in order. -/
def keys (members : Members) : List Text := members.map (·.1)

/-! ### Interface lemmas -/

@[simp] theorem get?_set_self (members : Members) (key : Text) (value : Json) :
    (members.set key value).get? key = some value := by
  induction members with
  | nil => simp [set, get?]
  | cons m rest ih =>
    simp only [set]
    split
    · simp [get?]
    · next h => simp [get?, h, ih]

theorem get?_set_of_ne (members : Members) {key other : Text} (value : Json) (h : other ≠ key) :
    (members.set key value).get? other = members.get? other := by
  induction members with
  | nil => simp [set, get?, h.symm]
  | cons m rest ih =>
    simp only [set]
    split
    · next hk => simp [get?, h.symm, hk]
    · simp only [get?, ih]

end Members

/-- The value under a key of an object; other values have no keys. -/
def get? : Json → Text → Option Json
  | obj members, key => Members.get? members key
  | _, _ => none

/-- Is this an object? -/
def isObject : Json → Bool
  | obj _ => true
  | _ => false

/-- Zero, the empty text, list and object, `false` and `null` count as absent where a value is
asked for that is there. -/
def isTruthy : Json → Bool
  | null => false
  | bool b => b
  | int n => n != 0
  | float x => !x.isZero
  | str s => !s.isEmpty
  | arr items => !items.isEmpty
  | obj members => !members.isEmpty

/-- The items of a list; other values have none. -/
def items : Json → List Json
  | arr items => items
  | _ => []

end Json

end DashboardSynthesis
