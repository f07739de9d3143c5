import DashboardSynthesis.Console.Markup
import DashboardSynthesis.Dashboard.Document
import DashboardSynthesis.Report
import DashboardSynthesis.Template.Library
import DashboardSynthesis.Yaml.Fault

/-!
# Failures

What a command does not complete is a failure.  A failure that the program foresees is a report; a
command can be interrupted; everything else is a breakdown.  A breakdown is told by its cause, and
the log names it (`Breakdown.name`) and says what happened (`Breakdown.message`).
-/

namespace DashboardSynthesis

namespace FileFault

/-- The name of a fault in the log. -/
def name : FileFault → Text
  | notFound => "FileNotFoundError"
  | notADirectory => "NotADirectoryError"
  | isADirectory => "IsADirectoryError"
  | alreadyThere => "FileExistsError"
  | nameTooLong => "OSError"
  | nulInName => "ValueError"
  | unencodable => "UnicodeEncodeError"

/-- The fault in words, with the path where it occurred. -/
def message (path : Text) : FileFault → Text
  | notFound => ("[Errno 2] No such file or directory: " : Text) ++ Text.literal path
  | notADirectory => ("[Errno 20] Not a directory: " : Text) ++ Text.literal path
  | isADirectory => ("[Errno 21] Is a directory: " : Text) ++ Text.literal path
  | alreadyThere => ("[Errno 17] File exists: " : Text) ++ Text.literal path
  | nameTooLong => ("[Errno 36] File name too long: " : Text) ++ Text.literal path
  | nulInName => "embedded null byte"
  | unencodable => "surrogates not allowed"

end FileFault

namespace TemplateFault

/-- The name of a fault in the log. -/
def name : TemplateFault → Text
  | notFound _ => FileFault.notFound.name
  | nameTooLong _ => FileFault.nameTooLong.name
  | undecodable => "UnicodeDecodeError"

/-- The fault in words. -/
def message : TemplateFault → Text
  | notFound path => ("Dashboard template not found: " : Text) ++ path
  | nameTooLong path => FileFault.nameTooLong.message (Path.ofText path).toText
  | undecodable => "invalid UTF-8"

end TemplateFault

namespace Markup.Fault

/-- The name of a fault in the log. -/
def name : Fault → Text
  | unmatched _ | badParameters _ => "MarkupError"
  | component _ => "ValueError"

/-- The fault in words. -/
def message : Fault → Text
  | unmatched [] => "closing tag '[/]' has nothing to close"
  | unmatched tag => ("closing tag '[/" : Text) ++ tag ++ ("]' doesn't match any open tag" : Text)
  | badParameters parameters => ("error parsing " : Text) ++ Text.literal parameters
  | component .missing => "invalid literal for int() with base 10: ''"
  | component (.tooManyDigits digits) => Json.digitLimitMessage (some digits)

end Markup.Fault

/-- A failure that the program does not foresee. -/
inductive Breakdown where
  /-- A file cannot be used as intended. -/
  | file (fault : FileFault) (path : Text)
  /-- There is no text under a template path. -/
  | template (fault : TemplateFault)
  /-- A file is not in UTF-8. -/
  | undecodable
  /-- A text is to be stored or printed that has no bytes in the encoding, such as a surrogate. -/
  | unencodable
  /-- An integer exceeds the digit limit; in reading, the number of its digits is known. -/
  | tooManyDigits (digits : Option Nat)
  /-- Values are nested too deeply. -/
  | tooDeep
  /-- A coordinate on the grid is infinite. -/
  | infiniteGrid
  /-- A link of a dashboard is not an object. -/
  | linkNotAnObject
  /-- An indentation is beyond any width. -/
  | indentTooLarge
  /-- Settings have values that are not allowed, or there are settings that are not known. -/
  | settings (fields : List Text)
  /-- There is no log level of that name. -/
  | unknownLevel (name : Text)
  /-- A line with markup cannot be shown. -/
  | markup (fault : Markup.Fault)
  /-- An escape names a number that is no code point. -/
  | noCodePoint (number : Nat)
  /-- A scalar in a file does not fit its tag. -/
  | badScalar (why : Yaml.ScalarDefect)
  /-- A detail of a report has the name of a field that the log entry has anyway. -/
  | repeatedField (key : Text)
  /-- Any other failure. -/
  | other (kind message : Text)
  deriving DecidableEq, Repr

namespace Breakdown

/-- The name of a breakdown in the log. -/
def name : Breakdown → Text
  | file fault _ => fault.name
  | template fault => fault.name
  | undecodable => "UnicodeDecodeError"
  | unencodable => "UnicodeEncodeError"
  | tooManyDigits _ => "ValueError"
  | tooDeep => "RecursionError"
  | infiniteGrid => "OverflowError"
  | linkNotAnObject => "AttributeError"
  | indentTooLarge => "OverflowError"
  | settings _ => "ValidationError"
  | unknownLevel _ => "ValueError"
  | markup fault => fault.name
  | noCodePoint number => if number < 0x80000000 then "ValueError" else "OverflowError"
  | badScalar why => why.name
  | repeatedField _ => "TypeError"
  | other kind _ => kind

/-- What happened, in words. -/
def message : Breakdown → Text
  | file fault path => fault.message path
  | template fault => fault.message
  | undecodable => TemplateFault.undecodable.message
  | unencodable => FileFault.unencodable.message []
  | tooManyDigits digits => Json.digitLimitMessage digits
  | tooDeep => "maximum recursion depth exceeded"
  | infiniteGrid => NotInteger.infinite.message
  | linkNotAnObject => "a link is not an object"
  | indentTooLarge => "cannot fit 'int' into an index-sized integer"
  | settings fields => ("invalid settings: " : Text) ++ Text.joinWith ", " fields
  | unknownLevel name => ("Unknown level: " : Text) ++ Text.literal name
  | markup fault => fault.message
  | noCodePoint number =>
    if number < 0x80000000 then "chr() arg not in range(0x110000)"
    else "Python int too large to convert to C int"
  | badScalar why => why.message
  | repeatedField key => ("got multiple values for argument " : Text) ++ Text.literal key
  | other _ message => message

end Breakdown

/-- Why a command is not completed. -/
inductive Failure where
  | reported (report : Report)
  | interrupted
  | broken (cause : Breakdown)

end DashboardSynthesis
