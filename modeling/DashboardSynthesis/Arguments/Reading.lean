import DashboardSynthesis.Arguments.Grammar

/-!
# Reading a command line

Words are used from left to right.  An option with a value takes it from its own word or from the next
one, if that is an operand; the first operand that is expected is used, and words that nothing takes are
collected as unknown.  Asking for help, or for the version, ends the reading at once.
-/

namespace DashboardSynthesis

/-- Why a command line is not read to its end. -/
inductive Stop where
  /-- Help is asked for. -/
  | help
  /-- The version of the program is asked for. -/
  | version
  /-- The program refuses its command line. -/
  | misuse (program : Text) (why : Misuse)
  deriving DecidableEq, Repr

/-- An option that is given, with its value if it has one. -/
structure OptionUse where
  rule : OptionRule
  value : Option Text := none
  deriving DecidableEq, Repr

/-- What has been read from a command line. -/
structure Reading where
  uses : List OptionUse := []
  operand : Option Text := none
  /-- What stands behind a command. -/
  tail : List Text := []
  unknown : List Text := []
  deriving DecidableEq, Repr

namespace Reading

/-- The value of the option of a name; it is the last one given that counts. -/
def value? (r : Reading) (name : Text) : Option Text :=
  (r.uses.reverse.find? fun use => use.rule.names.contains name).bind (·.value)

/-- Is the option of a name given? -/
def has (r : Reading) (name : Text) : Bool :=
  r.uses.any fun use => use.rule.names.contains name

end Reading

/-- What one word with options amounts to. -/
structure Expansion where
  uses : List OptionUse
  /-- Letters that are no options. -/
  stray : Option Text := none
  /-- Is the next word the value of the last option? -/
  takesNext : Bool := false
  deriving DecidableEq, Repr

namespace Grammar

/-- The options in a word in which a value is attached to an option: if the option takes none, the
value may consist of further letters. -/
def expandAttached (g : Grammar) (next : Option Text) (rule : OptionRule) (name : Text)
    (behindEquals : Bool) (value : Text) : Except Misuse Expansion :=
  if rule.action = .value then .ok { uses := [⟨rule, some value⟩] }
  else if isLong name then .error (.valueIgnored rule value)
  else
    match value with
    | [] => .error (.valueIgnored rule value)
    | letter :: rest =>
      if behindEquals || letter = .scalar '-' then .error (.valueIgnored rule value)
      else
        let name := [.scalar '-', letter]
        match g.find? name, rest with
        | none, _ => .ok { uses := [⟨rule, none⟩], stray := some (.scalar '-' :: value) }
        | some inner, [] =>
          if inner.action = .value then
            match next with
            | none => .error (.valueExpected inner)
            | some v => .ok { uses := [⟨rule, none⟩, ⟨inner, some v⟩], takesNext := true }
          else .ok { uses := [⟨rule, none⟩, ⟨inner, none⟩] }
        | some inner, c :: rest => do
          let behindEquals := c = .scalar '='
          let e ← g.expandAttached next inner name behindEquals
            (if behindEquals then rest else c :: rest)
          return { e with uses := ⟨rule, none⟩ :: e.uses }
  termination_by value.length
  decreasing_by split <;> simp only [List.length_cons] <;> omega

/-- The options in a word, given the next word if that is an operand. -/
def expand (g : Grammar) (next : Option Text) (o : WrittenOption) : Except Misuse Expansion :=
  match o.attached with
  | some a => g.expandAttached next o.rule o.name a.behindEquals a.value
  | none =>
    if o.rule.action = .value then
      match next with
      | none => .error (.valueExpected o.rule)
      | some v => .ok { uses := [⟨o.rule, some v⟩], takesNext := true }
    else .ok { uses := [⟨o.rule, none⟩] }

/-- The text of the first word, if that is an operand. -/
def leadingOperand? : List Word → Option Text
  | ⟨t, .operand⟩ :: _ => some t
  | _ => none

/-- Words without a separator in front. -/
def dropSeparator : List Word → List Word
  | ⟨_, .separator⟩ :: rest => rest
  | words => words

theorem length_dropSeparator_le (words : List Word) :
    (dropSeparator words).length ≤ words.length := by
  unfold dropSeparator
  split <;> simp

/-- Uses options in order: the first one that asks for help or for the version ends the reading. -/
def useAll : List OptionUse → Reading → Except Stop Reading
  | [], r => .ok r
  | use :: rest, r =>
    match use.rule.action with
    | .help => .error .help
    | .version => .error .version
    | _ => useAll rest { r with uses := r.uses ++ [use] }

/-- Reads words behind those of a reading. -/
def readFrom (g : Grammar) (r : Reading) : List Word → Except Stop Reading
  | [] => .ok r
  | ⟨text, .unknownOption⟩ :: rest => g.readFrom { r with unknown := r.unknown ++ [text] } rest
  | ⟨_, .option o⟩ :: rest => do
    let e ← (g.expand (leadingOperand? rest) o).mapError (.misuse g.program)
    let r ← useAll e.uses { r with unknown := r.unknown ++ e.stray.toList }
    g.readFrom r (if e.takesNext then rest.tail else rest)
  | ⟨text, .operand⟩ :: rest =>
    match g.operand, r.operand with
    | .value _, none => g.readFrom { r with operand := some text } (dropSeparator rest)
    | .command, none => .ok { r with operand := some text, tail := rest.map (·.text) }
    | _, _ => g.readFrom { r with unknown := r.unknown ++ [text] } rest
  | [⟨text, .separator⟩] => .ok { r with unknown := r.unknown ++ [text] }
  | ⟨text, .separator⟩ :: first :: rest =>
    match g.operand, r.operand with
    | .value _, none => g.readFrom { r with operand := some first.text } rest
    | .command, none =>
      .ok { r with operand := some text, tail := (first :: rest).map (·.text) }
    | _, _ => g.readFrom { r with unknown := r.unknown ++ [text] } (first :: rest)
  termination_by words => words.length
  decreasing_by
    all_goals simp only [List.length_cons]
    · omega
    · split
      · simp only [List.length_tail]
        omega
      · omega
    · have := length_dropSeparator_le rest
      omega
    all_goals omega

/-- The labels of what is required and not there. -/
def missing (g : Grammar) (r : Reading) : List Text :=
  (match g.operand, r.operand with
    | .value name, none => [name]
    | _, _ => []) ++
  ((g.options.filter fun rule => rule.required && !r.uses.any (·.rule = rule)).map (·.label))

/-- Reads a command line. -/
def read (g : Grammar) (arguments : List Text) : Except Stop Reading := do
  let words ← (g.words arguments).mapError (.misuse g.program)
  let r ← g.readFrom {} words
  match g.missing r with
  | [] => .ok r
  | labels => .error (.misuse g.program (.missing labels))

end Grammar

end DashboardSynthesis
