import DashboardSynthesis.Text.DecimalDigit
import DashboardSynthesis.Text.Literal

/-!
# Words on a command line

A grammar says which options there are and what else is expected.  Each word is classified before any
is used: it is an option, an operand, or the separator `--`, behind which everything is an operand.

A word that starts with a dash is an option if it is the name of one, perhaps with a value behind an
equals sign.  Otherwise a long name may be shortened as long as it fits one option only, and behind a
name of one letter a value may follow directly.  If nothing fits, a dash alone, a negative number and a
word with a blank are operands; any other word is an unknown option.
-/

namespace DashboardSynthesis

/-- What an option does. -/
inductive OptionAction where
  /-- It takes a value. -/
  | value
  | flag
  /-- It asks for help. -/
  | help
  /-- It asks for the version of the program. -/
  | version
  deriving DecidableEq, Repr

/-- An option: its names, the preferred one first, and what it does. -/
structure OptionRule where
  names : List Text
  action : OptionAction
  required : Bool := false
  deriving DecidableEq, Repr

/-- An option in messages. -/
def OptionRule.label (rule : OptionRule) : Text := Text.joinWith "/" rule.names

/-- What is expected besides options. -/
inductive Operand where
  | none
  /-- One value, called by a name in messages. -/
  | value (name : Text)
  /-- A command, to which everything behind it belongs. -/
  | command
  deriving DecidableEq, Repr

/-- What may stand on a command line. -/
structure Grammar where
  program : Text
  options : List OptionRule
  operand : Operand
  deriving DecidableEq, Repr

/-- Why a command line is refused. -/
inductive Misuse where
  | ambiguous (word : Text) (candidates : List Text)
  | valueExpected (option : OptionRule)
  | valueIgnored (option : OptionRule) (value : Text)
  | missing (labels : List Text)
  | noSuchCommand (word : Text) (known : List Text)
  | unrecognized (words : List Text)
  deriving DecidableEq, Repr

/-- Why a command line is refused, in words. -/
def Misuse.message : Misuse → Text
  | ambiguous word candidates =>
    ("ambiguous option: " : Text) ++ word ++ (" could match " : Text) ++
      Text.joinWith ", " candidates
  | valueExpected option =>
    ("argument " : Text) ++ option.label ++ (": expected one argument" : Text)
  | valueIgnored option value =>
    ("argument " : Text) ++ option.label ++ (": ignored explicit argument " : Text) ++
      Text.literal value
  | missing labels =>
    ("the following arguments are required: " : Text) ++ Text.joinWith ", " labels
  | noSuchCommand word known =>
    ("argument command: invalid choice: " : Text) ++ Text.literal word ++
      (" (choose from " : Text) ++ Text.joinWith ", " (known.map Text.literal) ++ (")" : Text)
  | unrecognized words => ("unrecognized arguments: " : Text) ++ Text.joinWith " " words

/-! ## Classes of words -/

/-- A value attached to the name of an option, behind an equals sign or directly. -/
structure Attached where
  behindEquals : Bool
  value : Text
  deriving DecidableEq, Repr

/-- An option as it is written. -/
structure WrittenOption where
  rule : OptionRule
  /-- The name, as far as it is spelled out in the grammar. -/
  name : Text
  attached : Option Attached := none
  deriving DecidableEq, Repr

/-- What a word is. -/
inductive WordClass where
  | operand
  | separator
  | option (o : WrittenOption)
  | unknownOption
  deriving DecidableEq, Repr

/-- A word and what it is. -/
structure Word where
  text : Text
  kind : WordClass
  deriving DecidableEq, Repr

/-- The separator. -/
def separatorWord : Text := "--"

/-- Does a text start with two dashes? -/
def isLong : Text → Bool
  | .scalar '-' :: .scalar '-' :: _ => true
  | _ => false

/-- Is this a decimal digit of any script? -/
def isAnyDigit (c : CodePoint) : Bool := c.decimalDigit?.isSome

/-- Is this a negative number: digits, perhaps with a point before some of them? -/
def isNegativeNumber : Text → Bool
  | .scalar '-' :: t =>
    let t := if t.getLast? = some (.scalar '\n') then t.dropLast else t
    match t.dropWhile isAnyDigit with
    | [] => !t.isEmpty
    | .scalar '.' :: fraction => !fraction.isEmpty && fraction.all isAnyDigit
    | _ => false
  | _ => false

/-- A word cut at the first equals sign, if there is one. -/
def cutAtEquals (word : Text) : Text × Option Attached :=
  match word.dropWhile (· ≠ .scalar '=') with
  | [] => (word, none)
  | _ :: value => (word.takeWhile (· ≠ .scalar '='), some ⟨true, value⟩)

namespace Grammar

/-- The names of all options, in order. -/
def named (g : Grammar) : List (Text × OptionRule) :=
  g.options.flatMap fun rule => rule.names.map fun name => (name, rule)

/-- The option of a name. -/
def find? (g : Grammar) (name : Text) : Option OptionRule :=
  (g.named.find? fun (known, _) => known = name).map (·.2)

/-- The options that a word may mean that is not the name of one. -/
def candidates (g : Grammar) (word : Text) : List WrittenOption :=
  if isLong word then
    let (start, attached) := cutAtEquals word
    (g.named.filter fun (name, _) => start.isPrefixOf name).map fun (name, rule) =>
      ⟨rule, name, attached⟩
  else
    (g.named.filter fun (name, _) => name = word.take 2).map fun (name, rule) =>
      ⟨rule, name, some ⟨false, word.drop 2⟩⟩

/-- What a word is that is the name of no option. -/
def classifyUnnamed (g : Grammar) (word : Text) : Except Misuse WordClass :=
  match g.candidates word with
  | [o] => .ok (.option o)
  | [] =>
    if isNegativeNumber word || word.contains (.scalar ' ') then .ok .operand
    else .ok .unknownOption
  | several => .error (.ambiguous word (several.map (·.name)))

/-- What a word other than the separator is. -/
def classify (g : Grammar) (word : Text) : Except Misuse WordClass :=
  match word with
  | .scalar '-' :: rest =>
    match g.find? word, cutAtEquals word with
    | some rule, _ => .ok (.option ⟨rule, word, none⟩)
    | none, (name, some attached) =>
      match g.find? name with
      | some rule => .ok (.option ⟨rule, name, some attached⟩)
      | none => g.classifyUnnamed word
    | none, (_, none) => if rest.isEmpty then .ok .operand else g.classifyUnnamed word
  | _ => .ok .operand

/-- The words of a command line. -/
def words (g : Grammar) : List Text → Except Misuse (List Word)
  | [] => .ok []
  | word :: rest =>
    if word = separatorWord then .ok (⟨word, .separator⟩ :: rest.map fun t => ⟨t, .operand⟩)
    else do
      let first : Word := ⟨word, ← g.classify word⟩
      return first :: (← g.words rest)

end Grammar

end DashboardSynthesis
