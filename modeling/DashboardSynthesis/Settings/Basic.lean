import DashboardSynthesis.Template.Library
import DashboardSynthesis.Text.Blank

/-!
# Settings

The settings have defaults, and each can be given another value under its name.  `Setting.assign`
reads such a value: texts are taken as they are, a flag is one of a few words, and an integer is a
decimal numeral with blanks around it and a fraction of zeros behind it.
-/

namespace DashboardSynthesis

/-- The settings of the program. -/
structure Settings where
  /-- The metric that is queried. -/
  metricName : Text := "dmn_result"
  /-- The template of operational dashboards. -/
  operationalTemplate : Text := Library.operationalName
  /-- The template of domain dashboards. -/
  domainTemplate : Text := Library.domainName
  /-- The directory below which dashboards are written. -/
  outputDirectory : Text := "generated"
  /-- The indentation of dashboards. -/
  indent : Int := 2
  /-- Do dashboards get the audit link unless something else is asked for? -/
  auditLink : Bool := false
  /-- The least level of what is logged. -/
  logLevel : Text := "INFO"
  deriving DecidableEq, Repr

/-- The settings one by one. -/
inductive Setting where
  | domainTemplate
  | auditLink
  | indent
  | logLevel
  | metricName
  | operationalTemplate
  | outputDirectory
  deriving DecidableEq, Repr

namespace Setting

/-- All settings, by name. -/
def all : List Setting :=
  [domainTemplate, auditLink, indent, logLevel, metricName, operationalTemplate, outputDirectory]

/-- The name of a setting. -/
def name : Setting → Text
  | domainTemplate => "domain_template"
  | auditLink => "generate_audit_link"
  | indent => "json_indent"
  | logLevel => "log_level"
  | metricName => "metric_name"
  | operationalTemplate => "operational_template"
  | outputDirectory => "output_dir"

/-- What stands before the name of a setting in the environment. -/
def variableStart : Text := "decisiondash_"

/-- The name of the variable for a setting, in lower case. -/
def variableName (s : Setting) : Text := variableStart ++ s.name

/-! ## Values -/

/-- The words for a flag that is set. -/
def trueWords : List Text := ["true", "1", "yes", "on", "t", "y"]

/-- The words for a flag that is not set. -/
def falseWords : List Text := ["false", "0", "no", "off", "f", "n"]

/-- A flag, in letters of any case. -/
def readFlag? (value : Text) : Option Bool :=
  let word := value.toLowerAscii
  if trueWords.contains word then some true
  else if falseWords.contains word then some false
  else none

/-- Blanks that may stand around an integer: the separators U+001C to U+001F are not among them. -/
def isBlank (c : CodePoint) : Bool := c.isBlank && !(0x1C ≤ c.value && c.value ≤ 0x1F)

/-- The digits of groups between single underscores; no group is empty. -/
def joinGroups? (t : Text) : Option Text :=
  let groups := Text.splitOn (.scalar '_') t
  if groups.all fun group => !group.isEmpty && group.all CodePoint.isDigit then some groups.flatten
  else none

/-- The whole part of a numeral whose fraction, if there is one, consists of zeros. -/
def dropZeroFraction? (t : Text) : Option Text :=
  match t.span (· ≠ .scalar '.') with
  | (whole, []) => some whole
  | (whole, _ :: zeros) =>
    if !zeros.isEmpty && zeros.all (· = .scalar '0') then some whole else none

/-- An integer: blanks, a sign, digits with single underscores between them, and a fraction of
zeros.  It has at most as many digits as an integer in JSON. -/
def readInteger? (value : Text) : Option Int := do
  let trimmed := Text.trimBy isBlank value
  let (negative, unsigned) : Bool × Text :=
    match trimmed with
    | .scalar '-' :: rest => (true, rest)
    | .scalar '+' :: rest => (false, rest)
    | rest => (false, rest)
  let whole ← dropZeroFraction? unsigned
  let digits ← joinGroups? whole
  if Json.digitLimit < digits.length then none
  else
    let magnitude : Int := Text.digitsValue digits
    some (if negative then -magnitude else magnitude)

/-- The settings with a value for one of them; there are none if the value is not allowed. -/
def assign? (settings : Settings) (setting : Setting) (value : Text) : Option Settings :=
  match setting with
  | domainTemplate => some { settings with domainTemplate := value }
  | auditLink => (readFlag? value).map fun b => { settings with auditLink := b }
  | indent => (readInteger? value).map fun n => { settings with indent := n }
  | logLevel => some { settings with logLevel := value }
  | metricName => some { settings with metricName := value }
  | operationalTemplate => some { settings with operationalTemplate := value }
  | outputDirectory => some { settings with outputDirectory := value }

end Setting

end DashboardSynthesis
