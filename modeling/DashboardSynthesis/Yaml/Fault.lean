import DashboardSynthesis.Yaml.Value

/-!
# Faults in words

A text that is not YAML is reported by the one who reads it.  The other faults of a text are
breakdowns, and are told here as far as the log needs it.
-/

namespace DashboardSynthesis
namespace Yaml

namespace ScalarDefect

/-- The name of a defect in the log. -/
def name : ScalarDefect → Text
  | noFlag _ => "KeyError"
  | noDigits => "IndexError"
  | noTimestamp => "AttributeError"
  | _ => "ValueError"

/-- A defect in words. -/
def message : ScalarDefect → Text
  | noFlag t => Text.literal t
  | noDigits => "string index out of range"
  | noInteger base t =>
    ("invalid literal for int() with base " : Text) ++ Text.ofNat base ++ (": " : Text) ++
      Text.literal t
  | tooManyDigits digits => Json.digitLimitMessage (some digits)
  | noFloat t => ("could not convert string to float: " : Text) ++ Text.literal t
  | noTimestamp => "not a timestamp"
  | yearOutOfRange year => ("year " : Text) ++ Text.ofNat year ++ (" is out of range" : Text)
  | monthOutOfRange => "month must be in 1..12"
  | dayOutOfRange => "day is out of range for month"
  | hourOutOfRange => "hour must be in 0..23"
  | minuteOutOfRange => "minute must be in 0..59"
  | secondOutOfRange => "second must be in 0..59"
  | zoneOutOfRange minutes =>
    ("offset must be a timedelta strictly between -timedelta(hours=24) and " : Text) ++
      ("timedelta(hours=24), not " : Text) ++ Timestamp.spanText minutes ++ ("." : Text)

end ScalarDefect

end Yaml
end DashboardSynthesis
