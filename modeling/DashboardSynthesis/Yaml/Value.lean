import DashboardSynthesis.Report
import DashboardSynthesis.Yaml.Node
import DashboardSynthesis.Yaml.Number
import DashboardSynthesis.Yaml.Timestamp

/-!
# Values of YAML

What a document denotes is a tree (`Datum`).  A mapping is a list of entries in the order in which
their keys first stand, with each key at most once; keys that denote the same number are the same key.

An alias can put a collection inside itself, and then the tree says by the number of the collection
that it stands there again.  What that is can only be told from the whole of the document.  So a
`Value`, which is a part of a document that can be asked for its text or for what is in it, comes with
the whole.

A text stands for itself where a text is asked for, and inside a list or a mapping it is a literal.  A
collection that is met again while its own text is being made is cut short.
-/

namespace DashboardSynthesis
namespace Yaml

/-- A value, or what stands for one inside a collection. -/
inductive Datum where
  | null
  | bool (value : Bool)
  | int (value : Int)
  | float (value : Binary64)
  | str (value : Text)
  | bytes (value : List UInt8)
  | timestamp (value : Timestamp)
  | seq (number : Nat) (items : List Datum)
  | map (number : Nat) (entries : List (Datum × Datum))
  | set (members : List Datum)
  /-- An entry of an ordered mapping. -/
  | pair (key value : Datum)
  /-- The collection of a number inside itself. -/
  | again (number : Nat)

namespace Datum

/-- Zero, `false`, nothing, and what is empty count as absent where a value is asked for. -/
def isTruthy : Datum → Bool
  | null => false
  | bool b => b
  | int n => n != 0
  | float x => !x.isZero
  | str t => !t.isEmpty
  | bytes bs => !bs.isEmpty
  | seq _ items => !items.isEmpty
  | map _ entries => !entries.isEmpty
  | set members => !members.isEmpty
  | timestamp _ | pair .. | again _ => true

/-! ## Keys -/

/-- May a value be a key of a mapping? -/
def isHashable : Datum → Bool
  | seq .. | map .. | set _ | again _ => false
  | pair key value => key.isHashable && value.isHashable
  | _ => true

/-- The number that a value counts as among keys, as a fraction. -/
def ratio? : Datum → Option (Int × Nat)
  | bool b => some (if b then 1 else 0, 1)
  | int n => some (n, 1)
  | float (.finite negative significand exponent) =>
    some (Binary64.ratio negative significand exponent)
  | _ => none

/-- Do two values denote the same key? -/
def isSameKey : Datum → Datum → Bool
  | null, null => true
  | str s, str t => s = t
  | bytes s, bytes t => s = t
  | timestamp s, timestamp t => s = t
  | pair a b, pair a' b' => a.isSameKey a' && b.isSameKey b'
  | float .nan, float .nan => true
  | float (.infinite s), float (.infinite t) => s = t
  | v, w =>
    match v.ratio?, w.ratio? with
    | some (n, d), some (n', d') => n * d' = n' * d
    | _, _ => false

/-- The entries with a value for a key: in the old place if there is one, else at the end. -/
def insert : List (Datum × Datum) → Datum → Datum → List (Datum × Datum)
  | [], key, value => [(key, value)]
  | (k, v) :: rest, key, value =>
    if k.isSameKey key then (k, value) :: rest else (k, v) :: insert rest key value

/-- The value under a text among entries. -/
def lookup : List (Datum × Datum) → Text → Option Datum
  | [], _ => none
  | (.str k, v) :: rest, key => if k = key then some v else lookup rest key
  | _ :: rest, key => lookup rest key

/-! ## Collections by their numbers -/

mutual

/-- The collection of a number. -/
def find? (number : Nat) : Datum → Option Datum
  | seq n items => if n = number then some (seq n items) else findAmong? number items
  | map n entries => if n = number then some (map n entries) else findInEntries? number entries
  | set members => findAmong? number members
  | pair key value => (find? number key).or (find? number value)
  | _ => none

/-- The collection of a number among items. -/
def findAmong? (number : Nat) : List Datum → Option Datum
  | [] => none
  | item :: items => (find? number item).or (findAmong? number items)

/-- The collection of a number among entries. -/
def findInEntries? (number : Nat) : List (Datum × Datum) → Option Datum
  | [] => none
  | (key, value) :: entries =>
    ((find? number key).or (find? number value)).or (findInEntries? number entries)

end

/-- What a part of a document is, given the whole. -/
def resolveIn : (part whole : Datum) → Datum
  | again number, whole => (whole.find? number).getD (again number)
  | d, _ => d

/-! ## As text -/

/-- A byte inside a literal between the given quotes. -/
def escapeByte (quote : Char) (b : UInt8) : Text :=
  let c := Char.ofNat b.toNat
  if c = quote ∨ c = '\\' then [.scalar '\\', .scalar c]
  else if c = '\n' then "\\n"
  else if c = '\r' then "\\r"
  else if c = '\t' then "\\t"
  else if 0x20 ≤ b.toNat ∧ b.toNat < 0x7F then [.scalar c]
  else ("\\x" : Text) ++ Text.hexPadded 2 b.toNat

/-- Bytes as a literal. -/
def bytesText (bs : List UInt8) : Text :=
  let has (c : Char) : Bool := bs.contains (UInt8.ofNat c.toNat)
  let quote := if has '\'' && !has '"' then '"' else '\''
  .scalar 'b' :: .scalar quote :: bs.flatMap (escapeByte quote) ++ [.scalar quote]

/-- Why a value has no text. -/
inductive TextFault where
  /-- An integer exceeds the digit limit. -/
  | tooManyDigits
  | tooDeep
  deriving DecidableEq, Repr

/-- A value as it is written inside a list or a mapping.  The document is `whole`, `levels` is how many
values may be written inside each other, and the collections with a number in `opened` are being
written. -/
def inner? (whole : Datum) : (levels : Nat) → (opened : List Nat) → Datum → Except TextFault Text
  | 0, _, _ => .error .tooDeep
  | levels + 1, opened, d =>
    match d.resolveIn whole with
    | null => .ok "None"
    | bool b => .ok (if b then "True" else "False")
    | int n => if (Json.int n).isPrintable then .ok (Text.ofInt n) else .error .tooManyDigits
    | float x => .ok (Shortest.text messageFloatNames x)
    | str t => .ok (Text.literal t)
    | bytes bs => .ok (bytesText bs)
    | timestamp t => .ok t.inner
    | seq n items =>
      if opened.contains n then .ok "[...]"
      else do
        let items ← items.mapM (inner? whole levels (n :: opened))
        pure (.scalar '[' :: Text.joinWith ", " items ++ ("]" : Text))
    | map n entries =>
      if opened.contains n then .ok "\x7b...\x7d"
      else do
        let entries ← entries.mapM fun (key, value) => do
          let key ← inner? whole levels (n :: opened) key
          return key ++ (": " : Text) ++ (← inner? whole levels (n :: opened) value)
        pure (.scalar '{' :: Text.joinWith ", " entries ++ ("\x7d" : Text))
    | set [] => .ok "set()"
    | set members => do
      let members ← members.mapM (inner? whole levels opened)
      pure (.scalar '{' :: Text.joinWith ", " members ++ ("\x7d" : Text))
    | pair key value => do
      let key ← inner? whole levels opened key
      let value ← inner? whole levels opened value
      pure (.scalar '(' :: key ++ (", " : Text) ++ value ++ (")" : Text))
    | again _ => .ok "..."

end Datum

/-! ## Parts of a document -/

/-- A part of a document, with the whole document. -/
structure Value where
  part : Datum
  whole : Datum

namespace Value

/-- What the part is. -/
def datum (v : Value) : Datum := v.part.resolveIn v.whole

/-- Is there nothing? -/
def isNull (v : Value) : Bool :=
  match v.datum with
  | .null => true
  | _ => false

/-- Does the value not count as absent? -/
def isTruthy (v : Value) : Bool := v.datum.isTruthy

/-- The value under a text in a mapping. -/
def get? (v : Value) (key : Text) : Option Value :=
  match v.datum with
  | .map _ entries => (Datum.lookup entries key).map (⟨·, v.whole⟩)
  | _ => none

/-- The items of a list. -/
def items? (v : Value) : Option (List Value) :=
  match v.datum with
  | .seq _ items => some (items.map (⟨·, v.whole⟩))
  | _ => none

/-- A value as text, where so many values may be written inside each other. -/
def text? (levels : Nat) (v : Value) : Except Datum.TextFault Text :=
  match v.datum with
  | .str t => .ok t
  | .timestamp t => .ok t.text
  | _ => Datum.inner? v.whole levels [] v.part

end Value

/-! ## Values of nodes -/

namespace Node

/-- The tag of a node. -/
def tag : Node → Tag
  | scalar tag _ | sequence _ tag _ | mapping _ tag _ | again _ tag => tag

/-- The number of a collection. -/
def number : Node → Nat
  | scalar .. => 0
  | sequence number .. | mapping number .. | again number _ => number

mutual

/-- The text of a node that has one: a scalar, or a mapping that has one under `=`. -/
def scalarText : Node → Except Fault Text
  | scalar _ text => .ok text
  | mapping _ _ entries => textUnderDefault entries
  | _ => malformed .wrongKind

/-- The text under `=` among entries. -/
def textUnderDefault : List (Node × Node) → Except Fault Text
  | [] => malformed .wrongKind
  | (key, value) :: entries =>
    if key.tag = .default then scalarText value else textUnderDefault entries

end

/-- The entries that are not merged from elsewhere; among them a key `=` is only a text. -/
def ownEntries (entries : List (Node × Node)) : List (Node × Node) :=
  (entries.filter fun (key, _) => key.tag ≠ .merge).map fun (key, value) =>
    match key with
    | scalar .default text => (scalar .str text, value)
    | key => (key, value)

mutual

/-- The entries that are merged into a mapping with the given entries. -/
def mergedEntries : List (Node × Node) → Except Fault (List (Node × Node))
  | [] => .ok []
  | (key, value) :: entries =>
    if key.tag = .merge then do
      let brought ← mergeSource value
      return brought ++ (← mergedEntries entries)
    else mergedEntries entries

/-- The entries that the value of a merge brings: those of a mapping, or of several ones of which an
earlier one takes precedence, and so comes last. -/
def mergeSource : Node → Except Fault (List (Node × Node))
  | mapping _ _ entries => return (← mergedEntries entries) ++ ownEntries entries
  | sequence _ _ items => return (← mergeSources items).reverse.flatten
  | _ => malformed .badMerge

/-- The entries of each of several mappings. -/
def mergeSources : List Node → Except Fault (List (List (Node × Node)))
  | [] => .ok []
  | mapping _ _ entries :: items => do
    let entries := (← mergedEntries entries) ++ ownEntries entries
    return entries :: (← mergeSources items)
  | _ :: _ => malformed .badMerge

end

/-- The entries of a mapping with those that are merged into it in front. -/
def allEntries (entries : List (Node × Node)) : Except Fault (List (Node × Node)) :=
  return (← mergedEntries entries) ++ ownEntries entries

end Node

namespace Datum

/-- The result of reading a scalar. -/
def ofScalar {α : Type} (make : α → Datum) : Except ScalarDefect α → Except Fault Datum
  | .ok a => .ok (make a)
  | .error why => .error (.badScalar why)

/-- A flag, in letters of any case. -/
def readFlag (t : Text) : Except ScalarDefect Bool :=
  let word := t.toLowerAscii
  if (["yes", "true", "on"] : List Text).contains word then .ok true
  else if (["no", "false", "off"] : List Text).contains word then .ok false
  else .error (.noFlag word)

/-- The value of a digit in base 64. -/
def base64Digit? : CodePoint → Option Nat
  | .scalar c =>
    if 'A' ≤ c ∧ c ≤ 'Z' then some (c.toNat - 'A'.toNat)
    else if 'a' ≤ c ∧ c ≤ 'z' then some (c.toNat - 'a'.toNat + 26)
    else if '0' ≤ c ∧ c ≤ '9' then some (c.toNat - '0'.toNat + 52)
    else if c = '+' then some 62
    else if c = '/' then some 63
    else none
  | .surrogate _ => none

/-- Bytes in base 64: `held` is what is left of the last digit, `place` the number of digits in the
current group of four, and `pads` the number of padding signs behind them.  Other characters do not
count; nothing is read behind a complete padding. -/
def ofBase64 (held place pads : Nat) : Text → Option (List UInt8)
  | [] => if place = 0 then some [] else none
  | c :: rest =>
    if c = .scalar '=' then
      if 2 ≤ place && 4 ≤ place + pads + 1 then some []
      else ofBase64 held place (if 2 ≤ place then pads + 1 else pads) rest
    else
      match base64Digit? c with
      | none => ofBase64 held place pads rest
      | some d =>
        match place with
        | 0 => ofBase64 d 1 0 rest
        | 1 => (ofBase64 (d % 16) 2 0 rest).map (UInt8.ofNat (held * 4 + d / 16) :: ·)
        | 2 => (ofBase64 (d % 4) 3 0 rest).map (UInt8.ofNat (held * 16 + d / 4) :: ·)
        | _ => (ofBase64 0 0 0 rest).map (UInt8.ofNat (held * 64 + d) :: ·)

/-- Bytes in base 64, written in ASCII. -/
def readBinary (t : Text) : Except Fault Datum :=
  if t.any fun c => 0x80 ≤ c.value then malformed .wrongKind
  else
    match ofBase64 0 0 0 t with
    | some bs => .ok (bytes bs)
    | none => malformed .wrongKind

/-! ## Making values

Values are made level by level: first the outermost collection, then those that stand in it, and so on.
So of several faults the one with the fewest collections around it counts, and of those the first. -/

/-- A fault, and the number of collections around it. -/
structure Found where
  level : Nat
  fault : Fault

/-- What is made at the present level, or a fault there. -/
def here {α : Type} (r : Except Fault α) : Except Found α := r.mapError (⟨0, ·⟩)

/-- What is made one level down. -/
def inside {α : Type} (r : Except Found α) : Except Found α :=
  r.mapError fun found => { found with level := found.level + 1 }

/-- Several outcomes together: the fault that counts, if there is one. -/
def gather {α : Type} : List (Except Found α) → Except Found (List α)
  | [] => .ok []
  | r :: rest =>
    match r, gather rest with
    | .ok a, .ok as => .ok (a :: as)
    | .error found, .ok _ => .error found
    | .ok _, .error found => .error found
    | .error found, .error other => .error (if found.level ≤ other.level then found else other)

/-- An entry of a mapping.  Its key is looked at before its value is; a collection is no key, whatever
stands in it. -/
def entryOf (key value : Except Found Datum) : Except Found (Datum × Datum) :=
  match key with
  | .error ⟨0, fault⟩ => .error ⟨0, fault⟩
  | .error _ => here (malformed .unhashableKey)
  | .ok key => if key.isHashable then value.map (key, ·) else here (malformed .unhashableKey)

/-- The mapping with the given entries, of which the last one for a key counts. -/
def ofEntries (entries : List (Datum × Datum)) : List (Datum × Datum) :=
  entries.foldl (fun sofar (key, value) => insert sofar key value) []

/-- The value of a node; each level of nesting takes one unit of the supply. -/
def ofNode : (supply : Nat) → Node → Except Found Datum
  | 0, _ => here (.error .tooDeep)
  | _, .again number _ => .ok (again number)
  | supply + 1, node =>
    let mapping (node : Node) : Except Found (List (Datum × Datum)) :=
      match node with
      | .mapping _ _ entries => do
        let entries ← here (Node.allEntries entries)
        let made ← gather <| entries.map fun (key, value) =>
          entryOf (ofNode supply key) (ofNode supply value)
        return ofEntries made
      | _ => here (malformed .wrongKind)
    let pairs (node : Node) : Except Found Datum :=
      match node with
      | .sequence number _ items =>
        seq number <$> gather (items.map fun item =>
          match item with
          | .mapping _ _ [(key, value)] => do
            match ← gather [ofNode supply key, ofNode supply value] with
            | [key, value] => pure (pair key value)
            | _ => here (malformed .wrongKind)
          | _ => here (malformed .wrongKind))
      | _ => here (malformed .wrongKind)
    match node.tag with
    | .null => do
      let _ ← here node.scalarText
      pure null
    | .bool => here do ofScalar bool (readFlag (← node.scalarText))
    | .int => here do ofScalar int (readInt (← node.scalarText))
    | .float => here do ofScalar float (readFloat (← node.scalarText))
    | .timestamp => here do ofScalar timestamp (Timestamp.read (← node.scalarText))
    | .str => here (str <$> node.scalarText)
    | .binary => here do readBinary (← node.scalarText)
    | .seq =>
      inside <|
        match node with
        | .sequence number _ items => seq number <$> gather (items.map (ofNode supply))
        | _ => here (malformed .wrongKind)
    | .map => inside (map node.number <$> mapping node)
    | .set => inside do return set ((← mapping node).map (·.1))
    | .orderedMap | .pairs => inside (pairs node)
    | .merge => here (malformed (.undefinedTag (Tag.standardStart ++ ("merge" : Text))))
    | .default => here (malformed (.undefinedTag (Tag.standardStart ++ ("value" : Text))))
    | .unknown name => here (malformed (.undefinedTag name))

end Datum

/-- The value of a text; a text without a document has none. -/
def read (t : Text) : Except Fault Value := do
  let (tokens, blocked) := tokens t
  let d ←
    match ← compose tokens blocked with
    | none => pure .null
    | some node => (Datum.ofNode (tokens.length + 1) node).mapError (·.fault)
  pure ⟨d, d⟩

end Yaml
end DashboardSynthesis
