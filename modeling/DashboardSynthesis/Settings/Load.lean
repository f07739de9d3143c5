import DashboardSynthesis.Settings.Basic
import DashboardSynthesis.Settings.VariableFile
import DashboardSynthesis.Text.LetterCase

/-!
# Where settings come from

A setting is read from the environment, else from a file of variables, else it has its default.  Names
of variables are taken in any case.  In the environment other variables do not matter, but in the file
every variable with a value has to be a setting; so a misspelled name there is noticed.  The values
and names that are not acceptable are reported all together.
-/

namespace DashboardSynthesis

/-- Orders texts by their code points. -/
def Text.le : Text → Text → Bool
  | [], _ => true
  | _ :: _, [] => false
  | a :: s, b :: t => a.value < b.value || (a.value = b.value && Text.le s t)

namespace Settings

/-- The value of the last entry for a name, which is given in lower case. -/
def lastOf {α : Type} (name : Text) (entries : List (Text × α)) : Option α :=
  (entries.reverse.find? fun (key, _) => Text.toLower key = name).map (·.2)

/-- The value that is given for a setting: the environment comes first. -/
def given? (environment : List (Text × Text)) (file : List (Text × Option Text))
    (setting : Setting) : Option Text :=
  match lastOf setting.variableName environment with
  | some value => some value
  | none => (lastOf setting.variableName file).join

/-- The names in the file that are no settings and have a value.  The bare name of a setting is
passed over. -/
def unknownNames (file : List (Text × Option Text)) : List Text :=
  let names := (file.map fun (key, _) => Text.toLower key).eraseDups
  names.filter fun name =>
    ((lastOf name file).join.getD []) ≠ []
      && !Setting.all.any fun setting => name = setting.name || name = setting.variableName

/-- The settings whose given value is not allowed. -/
def invalidSettings (environment : List (Text × Text)) (file : List (Text × Option Text)) :
    List Setting :=
  Setting.all.filter fun setting =>
    match given? environment file setting with
    | none => false
    | some value => (setting.assign? {} value).isNone

/-- The settings with what is given for one of them. -/
def takeGiven (environment : List (Text × Text)) (file : List (Text × Option Text))
    (settings : Settings) (setting : Setting) : Settings :=
  match given? environment file setting with
  | none => settings
  | some value => (setting.assign? settings value).getD settings

/-- The settings under an environment and a file of variables, or the names of all that is not
acceptable, in order. -/
def load (environment : List (Text × Text)) (file : List (Text × Option Text)) :
    Except (List Text) Settings :=
  let faults := (invalidSettings environment file).map Setting.name ++ unknownNames file
  if faults.isEmpty then .ok (Setting.all.foldl (takeGiven environment file) {})
  else .error (faults.mergeSort Text.le)

end Settings

end DashboardSynthesis
