/-!
# Text

A text is a list of code points, and a code point is a Unicode scalar value or a lone surrogate.
Escapes such as `\ud800` can put a lone surrogate into a value that is read from a file, so a type
without them would have to refuse, or to change, what the reader accepts.  Only storing such a text
fails, and it fails where the bytes are made (`Text.Utf8`).

The main definitions are

* `CodePoint`, with `CodePoint.value` and its partial inverse `CodePoint.ofNat?`;
* `Text`, with the embedding `Text.ofString` of ordinary strings;
* `Text.ofNat` and `Text.ofInt`, decimal notation;
* `Text.afterLast`, `Text.splitOn` and `Text.joinWith`, the ways in which texts are cut and joined.
-/

namespace DashboardSynthesis

/-- A code point: a Unicode scalar value, or one of the 2048 surrogates standing alone. -/
inductive CodePoint where
  | scalar (c : Char)
  | surrogate (n : Fin 2048)
  deriving DecidableEq, Repr

namespace CodePoint

/-- The number of a code point. -/
def value : CodePoint → Nat
  | scalar c => c.toNat
  | surrogate n => 0xD800 + n.val

/-- The code point with a given number, if the number is one. -/
def ofNat? (n : Nat) : Option CodePoint :=
  if h : n.isValidChar then some (scalar (Char.ofNatAux n h))
  else if h : 0xD800 ≤ n ∧ n < 0xE000 then some (surrogate ⟨n - 0xD800, by omega⟩)
  else none

instance : Coe Char CodePoint := ⟨scalar⟩

/-- The value of a decimal digit in ASCII. -/
def digit? : CodePoint → Option Nat
  | scalar c => if '0' ≤ c ∧ c ≤ '9' then some (c.toNat - '0'.toNat) else none
  | surrogate _ => none

/-- Is this a decimal digit in ASCII? -/
def isDigit (c : CodePoint) : Bool := c.digit?.isSome

/-- The value of a hexadecimal digit, in either case. -/
def hexDigit? : CodePoint → Option Nat
  | scalar c =>
    if '0' ≤ c ∧ c ≤ '9' then some (c.toNat - '0'.toNat)
    else if 'a' ≤ c ∧ c ≤ 'f' then some (c.toNat - 'a'.toNat + 10)
    else if 'A' ≤ c ∧ c ≤ 'F' then some (c.toNat - 'A'.toNat + 10)
    else none
  | surrogate _ => none

/-- The character of a scalar value. -/
def char? : CodePoint → Option Char
  | scalar c => some c
  | surrogate _ => none

/-- Is this a scalar value, that is, not a surrogate? -/
def isScalar : CodePoint → Bool
  | scalar _ => true
  | surrogate _ => false

end CodePoint

/-- A text is a list of code points. -/
abbrev Text := List CodePoint

namespace Text

/-- An ordinary string as a text. -/
def ofString (s : String) : Text := s.toList.map .scalar

instance : Coe String Text := ⟨ofString⟩

/-- The string with the same code points; there is none if a surrogate occurs. -/
def toString? (t : Text) : Option String := (t.mapM CodePoint.char?).map String.ofList

/-- A text without surrogates. -/
def IsScalar (t : Text) : Prop := ∀ c ∈ t, c.isScalar = true

instance (t : Text) : Decidable (IsScalar t) := inferInstanceAs (Decidable (∀ c ∈ t, _))

/-- Decimal notation of a natural number. -/
def ofNat (n : Nat) : Text := (Nat.toDigits 10 n).map .scalar

/-- Decimal notation of an integer, with `-` before a negative one. -/
def ofInt : Int → Text
  | .ofNat n => ofNat n
  | .negSucc n => .scalar '-' :: ofNat (n + 1)

/-- The number that a list of decimal digits denotes; other code points count as zero. -/
def digitsValue (digits : Text) : Nat :=
  digits.foldl (fun n c => 10 * n + c.digit?.getD 0) 0

/-- What stands behind the last code point that satisfies `p`: everything if none does. -/
def afterLast (p : CodePoint → Bool) (t : Text) : Text :=
  (t.reverse.takeWhile fun c => !p c).reverse

/-- The pieces between the occurrences of `sep`; there is always one piece. -/
def splitOn (sep : CodePoint) : Text → List Text
  | [] => [[]]
  | c :: rest =>
    if c = sep then [] :: splitOn sep rest
    else match splitOn sep rest with
      | [] => [[c]]
      | piece :: pieces => (c :: piece) :: pieces

/-- The texts in order, with `sep` between neighbours. -/
def joinWith (sep : Text) : List Text → Text
  | [] => []
  | [t] => t
  | t :: rest => t ++ sep ++ joinWith sep rest

/-- What is left of `t` behind the prefix `start`, if `t` starts so. -/
def dropPrefix? : (start t : Text) → Option Text
  | [], t => some t
  | _ :: _, [] => none
  | a :: start, b :: t => if a = b then dropPrefix? start t else none

/-- ASCII letters in lower case; everything else stays. -/
def toLowerAscii (t : Text) : Text :=
  t.map fun
    | .scalar c => .scalar c.toLower
    | c => c

/-- ASCII letters in upper case; everything else stays. -/
def toUpperAscii (t : Text) : Text :=
  t.map fun
    | .scalar c => .scalar c.toUpper
    | c => c

/-! ## Interface lemmas -/

@[simp] theorem splitOn_ne_nil (sep : CodePoint) (t : Text) : splitOn sep t ≠ [] := by
  cases t with
  | nil => simp [splitOn]
  | cons c rest =>
    simp only [splitOn]
    split
    · simp
    · split <;> simp

theorem length_le_of_dropPrefix? {start t after : Text} (h : dropPrefix? start t = some after) :
    after.length ≤ t.length := by
  fun_induction dropPrefix? start t with
  | case1 t => simp_all
  | case2 => simp at h
  | case3 a start t ih => exact Nat.le_succ_of_le (ih h)
  | case4 => simp at h

end Text

end DashboardSynthesis
